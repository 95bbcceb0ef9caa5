import StableLocator.Command.Run
import StableLocator.Proofs.Locator.Chain
import StableLocator.Proofs.Locator.Copying
import StableLocator.Proofs.Number.Digits
import StableLocator.Proofs.Outcome
import StableLocator.Proofs.Text.Utf8

/-!
# How commands on files end

A command on a file that cannot be opened ends with a message. One on a file that can be opened ends in
the same way for every page, selector and text; but a file that holds no page at all is a fault, without
an ending.

* `Machine.Opens`, `Machine.Shows`, `Machine.Unreadable` — what comes of a path: bytes or the reason why
  there are none, a page, or a fault;
* `Machine.readable_cases` — it is one of the three;
* `count_lines` — texts on lines of their own make as many lines;
* `Machine.Announces` — the number of elements at the start of what is printed;
* `Machine.count_ending`, `Machine.locate_ending` — what is done with a page;
* `Machine.run_onFile` — how the two commands end.
-/

namespace StableLocator

/-! ## Lines -/

/-- Each text stands on a line of its own, the last one, too. -/
theorem toList_lines_cons (text : String) (texts : List String) :
    (lines (text :: texts)).toList = text.toList ++ '\n' :: (lines texts).toList := by
  rw [lines, List.map_cons, String.join_cons, String.toList_append, String.toList_append, lines]
  simp

/-- Texts of one line each make as many lines. -/
theorem count_lines {texts : List String} (h : ∀ text ∈ texts, '\n' ∉ text.toList) :
    (lines texts).toList.count '\n' = texts.length := by
  induction texts with
  | nil => rfl
  | cons text texts ih =>
    have hText : text.toList.count '\n' = 0 := List.count_eq_zero.mpr (h text List.mem_cons_self)
    have hRest := ih fun other hOther => h other (List.mem_cons_of_mem text hOther)
    rw [toList_lines_cons, List.count_append, List.count_cons_self, hText, hRest, List.length_cons]
    omega

def Command.file? : Command → Option String
  | .synthesize file _ _ _ | .verify file _ => some file
  | _ => none

namespace Machine

/-! ## Files -/

/-- This comes of opening the file at a path without null characters. -/
def Opens (m : Machine) (file : String) (opened : Except DiskFault (List UInt8)) : Prop :=
  (∀ c ∈ file.toList, c.toNat ≠ 0) ∧ m.files m.config file = opened

/-- The file holds a page, with any line ends. -/
def Shows (m : Machine) (file : String) (page : Page) : Prop :=
  ∃ text, m.Opens file (.ok (Text.encode text)) ∧
    Page.read (String.ofList (Text.unifyLineEnds text.toList)) = .ok page

/-- There is no page to be read, and no reason that opening the file would give: the path has a null
character, the bytes are no text, or the text is refused as markup. -/
inductive Unreadable (m : Machine) (file : String) : CommandFault → Prop
  | null {c : Char} (hMem : c ∈ file.toList) (hNull : c.toNat = 0) : Unreadable m file .nullInPath
  | encoding {bytes : List UInt8} {error : Text.Utf8Error} (hFile : m.Opens file (.ok bytes))
      (h : Text.decode bytes = .error error) : Unreadable m file (.encoding error)
  | markup {text : String} {rejection : Markup.Rejection}
      (hFile : m.Opens file (.ok (Text.encode text)))
      (h : Page.read (String.ofList (Text.unifyLineEnds text.toList)) = .error rejection) :
      Unreadable m file (.markup rejection)

def unopened (file : String) (fault : DiskFault) : Ending :=
  ⟨2, "", lines ["Could not read " ++ file ++ ": " ++ fault.message file]⟩

section Files

variable {m : Machine} {file : String}

theorem Opens.plain {opened : Except DiskFault (List UInt8)} (h : m.Opens file opened) :
    ¬(file.toList.any fun c => c.toNat == 0) = true := by
  simpa using h.1

/-- A file that cannot be opened ends the command with the reason. -/
theorem openPage_of_closed {fault : DiskFault} (h : m.Opens file (.error fault)) :
    m.openPage file = .ok (.error (unopened file fault)) := by
  rw [openPage, if_neg h.plain, h.2]
  rfl

/-- A file that shows a page is opened with it. -/
theorem openPage_of_shows {page : Page} (h : m.Shows file page) :
    m.openPage file = .ok (.ok page) := by
  obtain ⟨text, hFile, hPage⟩ := h
  have hDecode : Text.decode (Text.encode text) = .ok text := Text.decode_eq_ok_iff.mpr rfl
  rw [openPage, if_neg hFile.plain, hFile.2]
  simp only [hDecode, hPage]

/-- A file that cannot be read makes the command fail. -/
theorem openPage_of_unreadable {fault : CommandFault} (h : m.Unreadable file fault) :
    m.openPage file = .error fault := by
  cases h with
  | null hMem hNull =>
    have hAny : (file.toList.any fun c => c.toNat == 0) = true :=
      List.any_eq_true.mpr ⟨_, hMem, beq_iff_eq.mpr hNull⟩
    rw [openPage, if_pos hAny]
  | encoding hFile hDecode =>
    rw [openPage, if_neg hFile.plain, hFile.2]
    simp only [hDecode]
  | @markup text rejection hFile hRead =>
    have hDecode : Text.decode (Text.encode text) = .ok text := Text.decode_eq_ok_iff.mpr rfl
    rw [openPage, if_neg hFile.plain, hFile.2]
    simp only [hDecode, hRead]

/-- A path leads to no page, to a reason why it does not open, or to a page. -/
theorem readable_cases (m : Machine) (file : String) :
    (∃ fault, m.Unreadable file fault) ∨ (∃ fault, m.Opens file (.error fault)) ∨
      ∃ page, m.Shows file page := by
  -- The path is looked at first, then what opening it gives, then the bytes, then the text.
  by_cases hNull : ∃ c ∈ file.toList, c.toNat = 0
  · obtain ⟨c, hMem, hNull⟩ := hNull
    exact .inl ⟨_, .null hMem hNull⟩
  have hPath : ∀ c ∈ file.toList, c.toNat ≠ 0 := fun c hMem hc => hNull ⟨c, hMem, hc⟩
  cases hFile : m.files m.config file with
  | error fault => exact .inr (.inl ⟨fault, hPath, hFile⟩)
  | ok bytes =>
    cases hDecode : Text.decode bytes with
    | error error => exact .inl ⟨_, .encoding ⟨hPath, hFile⟩ hDecode⟩
    | ok text =>
      rw [← Text.decode_eq_ok_iff.mp hDecode] at hFile
      cases hRead : Page.read (String.ofList (Text.unifyLineEnds text.toList)) with
      | error rejection => exact .inl ⟨_, .markup ⟨hPath, hFile⟩ hRead⟩
      | ok page => exact .inr (.inr ⟨page, text, ⟨hPath, hFile⟩, hRead⟩)

variable {use : Page → Ending}

/-- A command goes on with the page that its file shows. -/
theorem withPage_of_shows {page : Page} (h : m.Shows file page) :
    m.withPage file use = .ok (use page) := by
  rw [withPage, openPage_of_shows h]
  rfl

/-- A command on a file is a fault exactly if the file is unreadable, whatever it does with a page. -/
theorem withPage_eq_error_iff {fault : CommandFault} :
    m.withPage file use = .error fault ↔ m.Unreadable file fault := by
  rw [withPage, map_eq_error]
  constructor
  · intro h
    -- In the other two cases the file opens without a fault.
    rcases readable_cases m file with ⟨other, hOther⟩ | ⟨reason, hOpens⟩ | ⟨page, hShows⟩
    · rw [openPage_of_unreadable hOther] at h
      cases h
      exact hOther
    · rw [openPage_of_closed hOpens] at h
      cases h
    · rw [openPage_of_shows hShows] at h
      cases h
  · exact openPage_of_unreadable

/-- It ends with the reason why the file does not open, or as it ends with the page. -/
theorem ending_cases {ending : Ending} (h : m.withPage file use = .ok ending) :
    (∃ fault, m.Opens file (.error fault) ∧ ending = unopened file fault) ∨
      ∃ page, m.Shows file page ∧ ending = use page := by
  rcases readable_cases m file with ⟨fault, hFault⟩ | ⟨reason, hOpens⟩ | ⟨page, hShows⟩
  · rw [withPage_eq_error_iff.mpr hFault] at h
    cases h
  · rw [withPage, openPage_of_closed hOpens] at h
    cases h
    exact .inl ⟨reason, hOpens, rfl⟩
  · rw [withPage_of_shows hShows] at h
    cases h
    exact .inr ⟨page, hShows, rfl⟩

/-- A file shows one page. -/
theorem Shows.unique {page other : Page} (h : m.Shows file page) (hOther : m.Shows file other) :
    page = other := by
  have hSame := openPage_of_shows h
  rw [openPage_of_shows hOther] at hSame
  cases hSame
  rfl

end Files

/-! ## Verifying -/

/-- What is printed begins with a number of elements, and as many lines follow, one for each. -/
def Announces (output : String) (n : Nat) : Prop :=
  ∃ found : List String, found.length = n ∧ output = lines ((Nat.repr n ++ " match(es)") :: found)

/-- Nothing printed announces nothing, not even a count of zero. -/
theorem not_announces_nothing {n : Nat} : ¬Announces "" n := by
  rintro ⟨found, _, hOutput⟩
  have hChars := congrArg String.toList hOutput
  rw [toList_lines_cons] at hChars
  simp at hChars

/-- The number can be read off what is printed. -/
theorem Announces.unique {output : String} {n k : Nat} (h : Announces output n)
    (hOther : Announces output k) : n = k := by
  have digits {n : Nat} (h : Announces output n) :
      ∃ rest, output.toList.span Char.isDigit = (Nat.toDigits 10 n, rest) := by
    obtain ⟨found, _, rfl⟩ := h
    -- The digits end before the blank behind the number.
    have hChars : (lines ((Nat.repr n ++ " match(es)") :: found)).toList =
        Nat.toDigits 10 n ++ (" match(es)".toList ++ '\n' :: (lines found).toList) := by
      rw [toList_lines_cons, String.toList_append, List.append_assoc, Nat.toList_repr]
    rw [hChars]
    exact ⟨_, Number.span_toDigits n rfl⟩
  obtain ⟨rest, hDigits⟩ := digits h
  obtain ⟨rest', hDigits'⟩ := digits hOther
  have hSame : Nat.toDigits 10 n = Nat.toDigits 10 k := by
    rw [hDigits] at hDigits'
    exact congrArg Prod.fst hDigits'
  rw [← Number.ofDigits_toDigits n, hSame, Number.ofDigits_toDigits]

/-- Verifying prints the number of elements, and the status says whether there are any. -/
theorem count_ending (m : Machine) (settings : Settings) (text : String) (page : Page) :
    Announces (m.count settings text page).output
        (resolve text page settings.textLimit m.faults).count ∧
      (m.count settings text page).status =
        if (resolve text page settings.textLimit m.faults).count = 0 then 1 else 0 := by
  unfold count
  generalize resolve text page settings.textLimit m.faults = r
  have hLines : Announces
      (lines ((Nat.repr r.count ++ " match(es)") :: r.spots.map fun s => "  " ++ s.describe))
      r.count :=
    ⟨_, List.length_map _, rfl⟩
  by_cases hNone : r.count = 0
  · rw [if_pos hNone, if_pos hNone]
    exact ⟨hLines, rfl⟩
  · rw [if_neg hNone, if_neg hNone]
    exact ⟨hLines, rfl⟩

/-! ## Looking for locators -/

/-- The line for an element: its locator, and a comment for its severity. -/
def locatorLine (m : Machine) (settings : Settings) (dialect : Dialect) (page : Page) (s : Spot) :
    String :=
  let base := Target.of page page.root settings.textLimit settings.ancestorDepth m.faults
  let f := Target.find { base with spot := s }
  annotate (f.locator.render dialect) f.severity dialect

def chosen (all : Bool) (spots : List Spot) : List Spot := if all then spots else spots.take 1

/-- The selector is malformed, selects nothing, or each element that is chosen gets its line. -/
theorem locate_ending (m : Machine) (settings : Settings) (selector : Option String)
    (dialect : Dialect) (all : Bool) (page : Page) :
    (selector >>= page.root.select? = none ∧
        (m.locate settings selector dialect all page).status = 2) ∨
      (selector >>= page.root.select? = some [] ∧
        (m.locate settings selector dialect all page).status = 1) ∨
      ∃ spots, spots ≠ [] ∧ selector >>= page.root.select? = some spots ∧
        (m.locate settings selector dialect all page).status = 0 ∧
        (m.locate settings selector dialect all page).output =
          lines ((chosen all spots).map (m.locatorLine settings dialect page)) := by
  unfold locate
  cases hSelect : selector >>= page.root.select? with
  | none => exact .inl ⟨rfl, rfl⟩
  | some spots =>
    cases spots with
    | nil => exact .inr (.inl ⟨rfl, rfl⟩)
    | cons s spots => exact .inr (.inr ⟨s :: spots, List.cons_ne_nil s spots, rfl, rfl, rfl⟩)

/-- As many lines are printed as there are spots, as no locator breaks a line. -/
theorem count_locatorLines (m : Machine) (settings : Settings) (dialect : Dialect) (page : Page)
    (spots : List Spot) :
    (lines (spots.map (m.locatorLine settings dialect page))).toList.count '\n' = spots.length := by
  have hLines : ∀ text ∈ spots.map (m.locatorLine settings dialect page), '\n' ∉ text.toList := by
    intro text hText
    obtain ⟨s, _, rfl⟩ := List.mem_map.mp hText
    exact Locator.oneLine _ _ _
  rw [count_lines hLines, List.length_map]

/-! ## Both commands -/

def started (m : Machine) (settings : Settings) : Machine :=
  { m with config := begun settings m.config }

section Commands

variable {m : Machine} {settings : Settings} (hLoad : Settings.load m.config = .ok settings)
include hLoad

/-- Verifying counts what a text finds on the page of the file. -/
theorem result_verify (file text : String) :
    (m.run (.verify file text)).result =
      (m.started settings).withPage file ((m.started settings).count settings text) := by
  rw [run, hLoad]
  rfl

/-- Synthesizing locates what a selector selects on the page of the file. -/
theorem result_synthesize (file : String) (selector : Option String) (dialect : Option Dialect)
    (all : Bool) :
    (m.run (.synthesize file selector dialect all)).result =
      (m.started settings).withPage file
        ((m.started settings).locate settings selector (dialect.getD settings.dialect) all) := by
  rw [run, hLoad]
  rfl

/-- Either command does something with the page in its file, and ends with one of three statuses then. -/
theorem result_onFile {c : Command} {file : String} (hFile : c.file? = some file) :
    ∃ use : Page → Ending, (m.run c).result = (m.started settings).withPage file use ∧
      ∀ page, (use page).status ∈ [0, 1, 2] := by
  cases c with
  | synthesize path selector dialect all =>
    cases hFile
    refine ⟨_, result_synthesize hLoad file selector dialect all, fun page => ?_⟩
    have hCases := locate_ending (m.started settings) settings selector
      (dialect.getD settings.dialect) all page
    rcases hCases with ⟨_, hStatus⟩ | ⟨_, hStatus⟩ | ⟨_, _, _, hStatus, _⟩
    · simp [hStatus]
    · simp [hStatus]
    · simp [hStatus]
  | verify path text =>
    cases hFile
    refine ⟨_, result_verify hLoad file text, fun page => ?_⟩
    rw [(count_ending (m.started settings) settings text page).2]
    split <;> simp
  | pick | showSettings | changeSetting => cases hFile

/-- The status of verifying tells whether the number that is printed is positive. -/
theorem ending_verify {file text : String} {ending : Ending}
    (h : (m.run (.verify file text)).result = .ok ending) :
    ending.status = 0 ↔ ∃ n, 0 < n ∧ Announces ending.output n := by
  rw [result_verify hLoad] at h
  rcases ending_cases h with ⟨fault, _, rfl⟩ | ⟨page, _, rfl⟩
  · -- Nothing is printed where the file does not open.
    constructor
    · intro hStatus
      cases hStatus
    · rintro ⟨n, _, hNumber⟩
      exact absurd hNumber not_announces_nothing
  · obtain ⟨hNumber, hStatus⟩ := count_ending (m.started settings) settings text page
    rw [hStatus]
    constructor
    · intro hZero
      refine ⟨_, Nat.pos_of_ne_zero fun hNone => ?_, hNumber⟩
      rw [if_pos hNone] at hZero
      cases hZero
    · rintro ⟨n, hPositive, hOther⟩
      rw [if_neg (Nat.ne_of_gt (hNumber.unique hOther ▸ hPositive))]

/-- The status of looking for locators tells whether the selector can be read and selects something. -/
theorem ending_synthesize {file : String} {selector : Option String} {dialect : Option Dialect}
    {all : Bool} {ending : Ending}
    (h : (m.run (.synthesize file selector dialect all)).result = .ok ending) :
    ending.status = 0 ↔ ∃ page spots, (m.started settings).Shows file page ∧
      selector >>= page.root.select? = some spots ∧ spots ≠ [] := by
  rw [result_synthesize hLoad] at h
  rcases ending_cases h with ⟨fault, hClosed, rfl⟩ | ⟨page, hShows, rfl⟩
  · constructor
    · intro hStatus
      cases hStatus
    · rintro ⟨page, _, hShows, _⟩
      have hPage := openPage_of_shows hShows
      rw [openPage_of_closed hClosed] at hPage
      cases hPage
  · have hCases := locate_ending (m.started settings) settings selector
      (dialect.getD settings.dialect) all page
    constructor
    · intro hZero
      rcases hCases with ⟨_, hStatus⟩ | ⟨_, hStatus⟩ | ⟨spots, hSome, hSelect, _⟩
      · rw [hStatus] at hZero
        cases hZero
      · rw [hStatus] at hZero
        cases hZero
      · exact ⟨page, spots, hShows, hSelect, hSome⟩
    · rintro ⟨other, spots, hOther, hSelect, hSome⟩
      -- The page that the selector selects from is the one that the file shows.
      obtain rfl := hShows.unique hOther
      rcases hCases with ⟨hNone, _⟩ | ⟨hNothing, _⟩ | ⟨_, _, _, hStatus, _⟩
      · rw [hSelect] at hNone
        cases hNone
      · rw [hSelect] at hNothing
        cases hNothing
        exact absurd rfl hSome
      · exact hStatus

/-- Where the selector selects something, its locators are printed on lines of their own, in document
order. -/
theorem output_synthesize {file : String} {selector : Option String} {dialect : Option Dialect}
    {all : Bool} {page : Page} {spots : List Spot} (hShows : (m.started settings).Shows file page)
    (hSelect : selector >>= page.root.select? = some spots) (hSome : spots ≠ []) :
    ∃ ending, (m.run (.synthesize file selector dialect all)).result = .ok ending ∧
      ending.output = lines ((chosen all spots).map
        ((m.started settings).locatorLine settings (dialect.getD settings.dialect) page)) ∧
      ending.output.toList.count '\n' = (chosen all spots).length ∧
      spots.Sublist page.root.descendants := by
  refine ⟨_, (result_synthesize hLoad ..).trans (withPage_of_shows hShows), ?_⟩
  have hCases := locate_ending (m.started settings) settings selector
    (dialect.getD settings.dialect) all page
  -- The selector is known to select something, so that only the last case is left.
  rcases hCases with ⟨hNone, _⟩ | ⟨hNothing, _⟩ | ⟨found, _, hFound, _, hOutput⟩
  · rw [hSelect] at hNone
    cases hNone
  · rw [hSelect] at hNothing
    cases hNothing
    exact absurd rfl hSome
  · rw [hSelect] at hFound
    cases hFound
    obtain ⟨written, _, hRead⟩ := Option.bind_eq_some_iff.mp hSelect
    rw [hOutput]
    exact ⟨rfl, count_locatorLines .., Spot.select?_sublist hRead⟩

/-- With settings that load, the commands on files fail exactly on unreadable files and end with status
0, 1 or 2 on all others. Verifying has status 0 if and only if the number that it prints is positive.
Looking for locators has it if and only if the selector can be read and selects something; then there is
one line for each element that is chosen, in document order. -/
theorem run_onFile :
    (∀ c file, c.file? = some file →
      (∀ fault, (m.run c).result = .error fault ↔ (m.started settings).Unreadable file fault) ∧
      ∀ ending, (m.run c).result = .ok ending → ending.status ∈ [0, 1, 2]) ∧
    (∀ file text ending, (m.run (.verify file text)).result = .ok ending →
      (ending.status = 0 ↔ ∃ n, 0 < n ∧ Announces ending.output n)) ∧
    ∀ file selector dialect all,
      (∀ ending, (m.run (.synthesize file selector dialect all)).result = .ok ending →
        (ending.status = 0 ↔ ∃ page spots, (m.started settings).Shows file page ∧
          selector >>= page.root.select? = some spots ∧ spots ≠ [])) ∧
      ∀ page spots, (m.started settings).Shows file page →
        selector >>= page.root.select? = some spots → spots ≠ [] →
        ∃ ending, (m.run (.synthesize file selector dialect all)).result = .ok ending ∧
          ending.output = lines ((chosen all spots).map
            ((m.started settings).locatorLine settings (dialect.getD settings.dialect) page)) ∧
          ending.output.toList.count '\n' = (chosen all spots).length ∧
          spots.Sublist page.root.descendants := by
  -- What any command on a file does, then what is printed by the two.
  refine ⟨?_, ?_, ?_⟩
  · intro c file hFile
    obtain ⟨use, hResult, hStatus⟩ := result_onFile hLoad hFile
    rw [hResult]
    refine ⟨fun fault => withPage_eq_error_iff, fun ending hEnding => ?_⟩
    rcases ending_cases hEnding with ⟨fault, _, rfl⟩ | ⟨page, _, rfl⟩
    · simp [unopened]
    · exact hStatus page
  · intro file text ending hEnding
    exact ending_verify hLoad hEnding
  · intro file selector dialect all
    constructor
    · intro ending hEnding
      exact ending_synthesize hLoad hEnding
    · intro page spots hShows hSelect hSome
      exact output_synthesize hLoad hShows hSelect hSome

end Commands

/-- A machine where every path leads to a file of these bytes. -/
def holding (bytes : List UInt8) : Machine :=
  { files := fun _ _ => .ok bytes, configPath := "cfg", stage := { snapshot := .null } }

/-- Two paragraphs are printed on two lines. -/
theorem run_onFile_paragraphs :
    Settings.load (holding (Text.encode "<p>Hi</p><p>Ho</p>")).config = .ok {} ∧
      ∃ ending, ((holding (Text.encode "<p>Hi</p><p>Ho</p>")).run
          (.synthesize "page.html" (some "p") none true)).result = .ok ending ∧
        ending.status = 0 ∧ ending.output.toList.count '\n' = 2 := by
  have hLoad : Settings.load (holding (Text.encode "<p>Hi</p><p>Ho</p>")).config = .ok {} := rfl
  obtain ⟨page, hRead, hTwo⟩ : ∃ page,
      Page.read (String.ofList (Text.unifyLineEnds "<p>Hi</p><p>Ho</p>".toList)) = .ok page ∧
        (page.root.select? "p").map List.length = some 2 :=
    exists_ok_of_any (by decide +kernel)
  obtain ⟨spots, hSelect, hLength⟩ := Option.map_eq_some_iff.mp hTwo
  have hSome : spots ≠ [] := by
    rintro rfl
    cases hLength
  have hShows : ((holding (Text.encode "<p>Hi</p><p>Ho</p>")).started {}).Shows "page.html" page :=
    ⟨_, ⟨by simp, rfl⟩, hRead⟩
  obtain ⟨hStatus, hOutput⟩ := (run_onFile hLoad).2.2 "page.html" (some "p") none true
  obtain ⟨ending, hEnding, _, hLines, _⟩ := hOutput page spots hShows hSelect hSome
  refine ⟨hLoad, ending, hEnding, ?_, hLines.trans hLength⟩
  exact (hStatus ending hEnding).mpr ⟨page, spots, hShows, hSelect, hSome⟩

/-- A single byte that begins no character is a fault of either command, not an ending. -/
theorem run_holding_faults :
    Settings.load (holding [0xFF]).config = .ok {} ∧
      ∃ error, ((holding [0xFF]).run (.verify "page.html" "button")).result = .error (.encoding error) ∧
        ((holding [0xFF]).run (.synthesize "page.html" (some "button") none false)).result =
          .error (.encoding error) := by
  have hLoad : Settings.load (holding [0xFF]).config = .ok {} := rfl
  obtain ⟨error, hDecode⟩ : ∃ error, Text.decode [0xFF] = .error error := by
    have hNone : (Text.decode [0xFF]).toOption = none := by decide +kernel
    cases hDecode : Text.decode [0xFF] with
    | error error => exact ⟨error, rfl⟩
    | ok text =>
      rw [hDecode] at hNone
      cases hNone
  have hUnreadable : ((holding [0xFF]).started {}).Unreadable "page.html" (.encoding error) :=
    .encoding ⟨by simp, rfl⟩ hDecode
  refine ⟨hLoad, error, ?_, ?_⟩
  · exact (result_verify hLoad ..).trans (withPage_eq_error_iff.mpr hUnreadable)
  · exact (result_synthesize hLoad ..).trans (withPage_eq_error_iff.mpr hUnreadable)

end Machine
end StableLocator
