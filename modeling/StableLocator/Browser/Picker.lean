import StableLocator.Browser.Snapshot
import StableLocator.Browser.Stage
import StableLocator.Browser.Trouble
import StableLocator.Browser.Url
import StableLocator.Session.Desk

/-!
# Picking in a browser

A picker works at a desk whose pages are snapshots of one live page. The page reports clicks, which
wait in a queue until they are handled; panels and marks are carried over to the page.

* `Picker.launch` and `Picker.attach` open a page, `Picker.shutdown` leaves it.
* `Picker.fire` takes in what happens on the page, `Picker.process` handles what waits.
* `Picker.arm`, `Picker.disarm`, `Picker.toggle`, `Picker.verify` are the commands.
* `Picker.pump` waits for picks.
-/

namespace StableLocator

inductive Pending
  | pick (r : Report)
  | close
  deriving Repr

structure Result where
  page : Nat
  finding : Finding
  dialect : Dialect
  deriving DecidableEq, Repr

def Result.text (r : Result) : String := r.finding.locator.render r.dialect

/-- A picker and all that it holds. -/
structure Picker where
  stage : Stage
  desk : Desk := {}
  /-- The page is attached. -/
  attached : Bool := false
  /-- The page's events reach the picker. -/
  bound : Bool := false
  engine : Bool := false
  browser : Bool := false
  /-- The picker closes the browser when it shuts down. -/
  owned : Bool := false
  pending : List Pending := []
  results : List Result := []
  /-- The results that were handed out, in order. -/
  announced : List Result := []
  /-- All that was asked of the browser and the page, in order. -/
  calls : List Call := []
  /-- All messages to the user, in order. -/
  statuses : List String := []

inductive PickerFault
  | script (message : String)
  | markup (rejection : Markup.Rejection)
  | dialect (error : UnknownDialect)
  | address (flaw : Url.Flaw)
  | index (error : Number.IntegerError)
  | countInfinite (error : Json.InfiniteNumber)
  | countNotANumber

def PickerFault.message : PickerFault → String
  | .script message => message
  | .markup rejection => rejection.message
  | .dialect error => error.message
  | .address flaw => flaw.message
  | .index error => error.message
  | .countInfinite error => error.message
  | .countNotANumber => "cannot convert float NaN to integer"

namespace Picker

def session (p : Picker) : Session := p.desk.session

/-! ## Calls and messages -/

def ask (p : Picker) (c : Call) : Picker := { p with calls := p.calls ++ [c] }

def tell (p : Picker) (message : String) : Picker :=
  { p with statuses := p.statuses ++ [message] }

def evaluate (p : Picker) (script : Script) (argument : Json := .null) :
    Except String Json × Picker :=
  (p.stage.evaluate p.calls.length script argument, p.ask (.evaluate script argument))

/-- A script runs in the page, and nobody minds if it fails. -/
def attempt (p : Picker) (script : Script) (argument : Json := .null) : Json × Picker :=
  let (answer, p) := p.evaluate script argument
  (answer.toOption.getD .null, p)

/-- The page is told whether to wait for a click. -/
def setArmed (p : Picker) (armed : Bool) : Picker := (p.attempt .setArmed (.bool armed)).2

def inject (p : Picker) (armed : Bool) : Picker :=
  let (_, p) := p.attempt .inject
  let (installed, p) := p.attempt .installed
  if installed.isTruthy then p.setArmed armed else p

def severityName : Severity → String
  | .none => "none"
  | .warning => "warning"
  | .critical => "critical"

def panelArgument (panel : Panel) : Json :=
  .obj [("text", .str panel.text), ("copyText", .str panel.copyText),
    ("severity", .str (severityName panel.severity)), ("isError", .bool panel.isError)]

/-- A panel event is carried over to the page. -/
def carry (p : Picker) (e : PanelEvent) : Picker :=
  if p.attached then
    match e with
    | .shown panel => (p.attempt .showPanel (panelArgument panel)).2
    | .hidden _ => (p.attempt .hidePanel).2
  else p

/-- The desk as it is after a command; what happened to panels meanwhile is carried over. -/
def move (p : Picker) (desk : Desk) : Picker :=
  let news := desk.session.history.drop p.session.history.length
  news.foldl carry { p with desk }

def moveSession (p : Picker) (s : Session) : Picker := p.move { p.desk with session := s }

/-! ## Snapshots -/

def snapshotArgument : Json :=
  .obj [("indexAttr", .str indexStamp), ("hiddenAttr", .str Visibility.stampName),
    ("valueAttr", .str Spot.valueStamp), ("uiAttr", .str "data-locatorpicker-ui")]

def snapshot (p : Picker) : Except PickerFault Page × Picker :=
  let (answer, p) := p.evaluate .snapshot snapshotArgument
  (match answer with
    | .error message => .error (.script message)
    | .ok v => (Page.ofSnapshot v).mapError .markup, p)

/-! ## Commands -/

def noPageMessage : String := "Launch a page first."

def attach (p : Picker) : Picker :=
  let p := { p with attached := true, bound := true }
  let p := p.ask (.exposeBinding "__locatorPickerReport")
  let p := p.ask (.exposeBinding "__locatorPickerClosed")
  let p := p.ask .addScript
  let p := p.ask (.listen "framenavigated")
  p.inject p.session.armed

def arm (p : Picker) (dialect : Option Dialect) : Except PickerFault Bool × Picker :=
  if p.attached then
    match p.session.arm dialect with
    | .error e => (.error (.dialect e), p)
    | .ok (changed, s) =>
      let p := (p.moveSession s).inject true
      let message := "Picking mode ON (" ++ p.session.dialect.name ++ "). Click an element."
      (.ok changed, if changed then p.tell message else p)
  else (.ok false, p.tell noPageMessage)

def disarm (p : Picker) : Bool × Picker :=
  let (changed, s) := p.session.disarm
  let p := p.moveSession s
  let p := if p.attached then p.setArmed false else p
  (changed, if changed then p.tell "Picking mode OFF." else p)

def toggle (p : Picker) (dialect : Option Dialect) : Except PickerFault Bool × Picker :=
  if p.session.armed then
    let p := p.disarm.2
    (.ok p.session.armed, p)
  else
    let (outcome, p) := p.arm dialect
    (outcome.map fun _ => p.session.armed, p)

/-! ## Events -/

/-- What happens on the page. Reports wait; going elsewhere ends picking and drops what waits. -/
def fire (p : Picker) : PageEvent → Picker
  | .report r => if p.bound then { p with pending := p.pending ++ [.pick r] } else p
  | .close => if p.bound then { p with pending := p.pending ++ [.close] } else p
  | .navigated mainFrame =>
    if p.bound && p.attached && mainFrame then
      { p.moveSession p.session.navigate with pending := [] }
    else p
  | .pageClosed => { p with stage := { p.stage with closed := true } }

/-- A report is of no use: nobody waits for a pick any more. -/
def dismiss (p : Picker) (message : String) : Picker :=
  (p.moveSession p.session.disarm.2).tell message

def announce (p : Picker) (result : Result) : Picker :=
  { p with results := p.results ++ [result], announced := p.announced ++ [result] }

def pickAt (p : Picker) (page : Page) (place : Place) : Picker :=
  let dialect := p.session.dialect
  let (number, desk) := p.desk.take page
  let (finding, desk) := desk.pick ⟨number, place⟩
  let p := p.move desk
  match finding with
  | some f => p.announce ⟨number, f, dialect⟩
  | none => p

/-- A click is handled, if somebody waits for one. Whether the report is of the element, `Report.isOf`, is
not asked here: the answer would only be noted in a log. Comparing cannot fail either, as a report is read
from JSON, and no integer of a text is too long to be shown. -/
def handlePick (p : Picker) (r : Report) : Except PickerFault Unit × Picker :=
  if p.attached && p.session.armed then
    match r.index? with
    | .error e => (.error (.countInfinite e), p)
    | .ok none => (.ok (), p.dismiss "Pick report did not include an element index.")
    | .ok (some index) =>
      match p.snapshot with
      | (.error fault, p) => (.error fault, p)
      | (.ok page, p) =>
        match page.atIndex? index with
        | none => (.ok (), p.dismiss "Picked element is no longer in the page.")
        | some spot => (.ok (), p.pickAt page spot.place)
  else (.ok (), p)

def handle (p : Picker) : Pending → Except PickerFault Unit × Picker
  | .pick r => p.handlePick r
  | .close => (.ok (), p.moveSession p.session.hide)

/-- A waiting report is handled; a failure is a message to the user. -/
def handleSafely (p : Picker) (event : Pending) : Picker :=
  match p.handle event with
  | (.ok (), p) => p
  | (.error fault, p) => p.tell ("Pick handling failed: " ++ fault.message)

/-- Reports are handled one after another, each of them taken from the queue before it is handled;
the answer is the number of those that were. -/
def handleEach : List Pending → Picker → Nat × Picker
  | [], p => (0, p)
  | event :: rest, p =>
    let (count, p) := handleEach rest ({ p with pending := rest }.handleSafely event)
    (count + 1, p)

/-- All waiting reports are handled, first come first served; the answer is their number. -/
def process (p : Picker) : Nat × Picker := handleEach p.pending p

/-! ## Verification -/

/-- The index stamps of the marked elements that have a numeral for one. -/
def markedStamps (p : Picker) : List String :=
  p.session.marked.filterMap fun m => do
    let spot ← (Pages.page p.desk.pages m.page).find? m.place
    let stamp ← spot.attr? indexStamp
    if stamp ≠ "" ∧ stamp.toList.all Text.isDigit then some stamp else none

def outline (p : Picker) (indices : List Int) : Except PickerFault Unit × Picker :=
  let argument := Json.obj
    [("indices", .arr (indices.map .int)), ("marker", .str p.session.settings.marker)]
  let (count, p) := p.attempt .mark argument
  (match count with
    | .float .nan => .error .countNotANumber
    | .float (.infinite _) => .error (.countInfinite {})
    | _ => .ok (), p)

/-- A text is verified on a snapshot of the page, and the page outlines what was found. -/
def verify (p : Picker) (text : String) : Except PickerFault Resolution × Picker :=
  if p.attached then
    match p.snapshot with
    | (.error fault, p) => (.error fault, p)
    | (.ok page, p) =>
      let (number, desk) := p.desk.take page
      let (resolution, desk) := desk.verify text number
      let p := p.move desk
      match p.markedStamps.mapM Number.readInteger with
      | .error e => (.error (.index e), p)
      | .ok indices =>
        match p.outline indices with
        | (.error fault, p) => (.error fault, p)
        | (.ok (), p) =>
          (.ok resolution, p.tell (Nat.repr resolution.count ++ " match(es) for " ++ text))
  else (.ok ⟨.noPage, []⟩, p.tell noPageMessage)

/-! ## Opening and leaving -/

def shutdown (p : Picker) : Picker :=
  let p :=
    match p.attached, p.stage.isClosed with
    | true, .ok false => (p.attempt .remove).2
    | _, _ => p
  let p := if p.owned && p.browser then p.ask .closeBrowser else p
  let p := if p.engine then p.ask .stopEngine else p
  { p with attached := false, browser := false, engine := false, owned := false }

structure Mishaps where
  engineMissing : Option String := none
  engineStart : Option String := none
  browserLaunch : Option String := none
  pageOpening : Option String := none
  deriving DecidableEq, Repr

def launchTrouble (message : String) : String :=
  if Trouble.isMissingBrowser message then
    "Chromium is not installed. Run `playwright install chromium` and try again."
  else "Failed to launch Chromium: " ++ message

def openBrowser (p : Picker) (headless : Bool) (mishaps : Mishaps) : Option String × Picker :=
  let p := p.ask .startEngine
  match mishaps.engineStart with
  | some message => (some message, p)
  | none =>
    let p := { p with engine := true }.ask (.launchBrowser headless)
    match mishaps.browserLaunch with
    | some message => (some message, p)
    | none => (none, { p with browser := true })

def openAddress (p : Picker) (url : String) : Bool × Picker :=
  let p := p.attach.tell ("Opening " ++ url)
  let p := p.ask (.goTo url)
  match p.stage.goToError with
  | some message => (false, p.tell ("Navigation failed: " ++ message))
  | none => (true, p.inject p.session.armed)

def launch (p : Picker) (raw : String) (headless : Bool) (mishaps : Mishaps := {}) :
    Except PickerFault Bool × Picker :=
  match Url.complete raw with
  | .error flaw => (.error (.address flaw), p)
  | .ok "" => (.ok false, p.tell "Please enter a URL.")
  | .ok url =>
    match mishaps.engineMissing with
    | some message => (.ok false, p.tell ("Playwright is not available: " ++ message))
    | none =>
      match p.openBrowser headless mishaps with
      | (some message, p) => (.ok false, (p.tell (launchTrouble message)).shutdown)
      | (none, p) =>
        let p := { p with owned := true }.ask .openPage
        match mishaps.pageOpening with
        | some message => (.error (.script message), p)
        | none =>
          let (there, p) := p.openAddress url
          (.ok there, p)

/-! ## Waiting for picks -/

/-- Nothing more is waited for: the page is gone, or there are enough results. -/
def isSatisfied (p : Picker) (start : Nat) (limit : Option Int) : Bool :=
  !p.attached || limit.any fun n => n ≤ (p.results.length : Int) - start

/-- Waiting failed; unless the page is gone, the user is told. -/
def stopWaiting (p : Picker) (message : String) : Picker :=
  if Trouble.isClosedPage message then p else p.tell ("Browser loop stopped: " ++ message)

/-- Waits one after another, each with what happens meanwhile, until enough results are there or
the page is gone. -/
def pumpThrough (start : Nat) (limit : Option Int) (milliseconds : Int) :
    List (List PageEvent) → Picker → Picker
  | waits, p =>
    if p.isSatisfied start limit then p
    else
      match p.stage.isClosed, waits with
      | .error message, _ => p.stopWaiting message
      | .ok true, _ => p
      | .ok false, [] => (p.ask (.wait milliseconds)).stopWaiting p.stage.waitError
      | .ok false, events :: rest =>
        let p := { p with stage := { p.stage with waits := rest } }.ask (.wait milliseconds)
        pumpThrough start limit milliseconds rest (events.foldl fire p).process.2

/-- Picks are waited for; the answer is the results that came meanwhile. -/
def pump (p : Picker) (limit : Option Int) (milliseconds : Int := 100) : List Result × Picker :=
  let start := p.results.length
  let p := pumpThrough start limit milliseconds p.stage.waits p
  (p.results.drop start, p)

end Picker
end StableLocator
