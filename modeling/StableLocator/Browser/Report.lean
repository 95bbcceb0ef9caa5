import StableLocator.Json.Value
import StableLocator.Naming.Role

/-!
# Pick reports

The script in a page reports a click as an object: the index of the element in the snapshot, its
tag and some of its attributes.
-/

namespace StableLocator

abbrev Report := List (String × Json)

namespace Report

def member (r : Report) (key : String) : Json := (r.lookup key).getD .null

def index? (r : Report) : Except Json.InfiniteNumber (Option Int) :=
  match r.member "index" with
  | .bool _ => .ok none
  | v => v.integer?.map fun n => n.filter fun n => 0 ≤ n

/-- Members of a report with the attributes that they should agree with. -/
def reportedAttributes : List (String × String) :=
  [("id", "id"), ("ariaLabel", "aria-label"), ("placeholder", "placeholder"), ("name", "name")]

/-- The report is of this element: the tag is the same, and so is each attribute that is reported
with any text. -/
def isOf (r : Report) (s : Spot) : Bool :=
  let tag := Text.lower (r.member "tag").collapsed
  tag != "" && tag == s.name &&
    reportedAttributes.all fun (key, name) =>
      let expected := (r.member key).collapsed
      expected == "" || s.attrText name == expected

end Report
end StableLocator
