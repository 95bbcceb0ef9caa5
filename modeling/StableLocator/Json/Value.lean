import StableLocator.Number.Binary64

/-!
# JSON values

Numbers without a fraction and an exponent are integers of any size, all others are 64 bit floating
point numbers. An object keeps its members in the order in which their names first occurred.
-/

namespace StableLocator

inductive Json
  | null
  | bool (b : Bool)
  | int (n : Int)
  | float (x : Number.Binary64)
  | str (s : String)
  | arr (items : List Json)
  | obj (members : List (String × Json))
  deriving Repr, Inhabited

namespace Json

def get? (key : String) : Json → Option Json
  | obj members => members.lookup key
  | _ => none

def getD (key : String) (v : Json) : Json := (v.get? key).getD .null

/-- A member written in its place, or at the end. -/
def putMember (key : String) (value : Json) : List (String × Json) → List (String × Json)
  | [] => [(key, value)]
  | (k, v) :: rest => if k = key then (k, value) :: rest else (k, v) :: putMember key value rest

/-- A member that was written has its new value. -/
theorem lookup_putMember_self (key : String) (value : Json) (members : List (String × Json)) :
    (putMember key value members).lookup key = some value := by
  induction members with
  | nil => simp [putMember]
  | cons member rest ih =>
    obtain ⟨k, v⟩ := member
    by_cases h : k = key
    · simp [putMember, h]
    · have hb : (key == k) = false := beq_eq_false_iff_ne.2 (Ne.symm h)
      simp [putMember, h, List.lookup_cons, hb, ih]

/-- Writing a member leaves the others as they are. -/
theorem lookup_putMember_of_ne {key other : String} (h : other ≠ key) (value : Json)
    (members : List (String × Json)) :
    (putMember key value members).lookup other = members.lookup other := by
  have hb : (other == key) = false := beq_eq_false_iff_ne.2 h
  induction members with
  | nil => simp [putMember, List.lookup_cons, hb]
  | cons member rest ih =>
    obtain ⟨k, v⟩ := member
    by_cases hk : k = key
    · subst hk
      simp [putMember, List.lookup_cons, hb]
    · simp [putMember, hk, List.lookup_cons, ih]

/-- All values but `null`, `false`, zero and the empty text, list and object. -/
def isTruthy : Json → Bool
  | null => false
  | bool b => b
  | int n => n ≠ 0
  | float x => !x.isZero
  | str s => s ≠ ""
  | arr items => !items.isEmpty
  | obj members => !members.isEmpty

/-! ## Values as integers -/

inductive IntegerFault
  | wrongKind
  | text (error : Number.IntegerError)
  | notANumber
  | infinite
  deriving DecidableEq, Repr

/-- The integer of a value: numbers lose their fraction, truth values count as one and zero, texts
are read. -/
def toInteger : Json → Except IntegerFault Int
  | bool b => .ok (if b then 1 else 0)
  | int n => .ok n
  | float .nan => .error .notANumber
  | float (.infinite _) => .error .infinite
  | float (.finite negative mantissa exponent) =>
    .ok (Number.withSign negative (Number.Binary64.whole mantissa exponent))
  | str s => (Number.readInteger s).mapError .text
  | _ => .error .wrongKind

/-- A number was infinite where an integer is wanted. -/
structure InfiniteNumber where
  deriving DecidableEq, Repr

def InfiniteNumber.message (_ : InfiniteNumber) : String :=
  "cannot convert float infinity to integer"

/-- The integer of a value, if it has one; an infinite number is an error. -/
def integer? (v : Json) : Except InfiniteNumber (Option Int) :=
  match v.toInteger with
  | .ok n => .ok (some n)
  | .error .infinite => .error {}
  | .error _ => .ok none

/-! ## Values as shown text -/

mutual
/-- A value as it shows inside a list or an object, with texts in quotes. -/
def inner : Json → String
  | null => "None"
  | bool b => if b then "True" else "False"
  | int n => Number.writeInteger n
  | float x => x.write
  | str s => Text.quoted s
  | arr items => "[" ++ ", ".intercalate (innerItems items) ++ "]"
  | obj members => "\x7b" ++ ", ".intercalate (innerMembers members) ++ "\x7d"

def innerItems : List Json → List String
  | [] => []
  | item :: rest => item.inner :: innerItems rest

def innerMembers : List (String × Json) → List String
  | [] => []
  | (key, value) :: rest => (Text.quoted key ++ ": " ++ value.inner) :: innerMembers rest
end

/-- A value as it shows on its own: a text as it is, all else as inside a list. -/
def display : Json → String
  | str s => s
  | v => v.inner

def shown (v : Json) : String := if v.isTruthy then v.display else ""

/-- A value as it shows, with white space collapsed. -/
def collapsed (v : Json) : String := Text.collapse v.shown

end Json
end StableLocator
