import StableLocator.Selector.Name
import StableLocator.Text.Quoted

/-!
# Addresses of pages

An address without a scheme is completed by `https://`. Before that its authority, the part between
`//` and the path, is checked: brackets must enclose a numeric address of version six, and no
character may turn into a delimiter when it is replaced by its compatibility form.

* `Url.isIPv4` and `Url.isIPv6` are the forms of numeric addresses.
* `Url.complete` completes an address or says what is wrong with it.
-/

namespace StableLocator
namespace Url

inductive Flaw
  | brackets
  | futureHost
  | host (host : String)
  | bracketedIPv4
  | foldedDelimiter (authority : String)
  deriving DecidableEq, Repr

def Flaw.message : Flaw → String
  | .brackets => "Invalid IPv6 URL"
  | .futureHost => "IPvFuture address is invalid"
  | .host name => Text.quoted name ++ " does not appear to be an IPv4 or IPv6 address"
  | .bracketedIPv4 => "An IPv4 address cannot be in brackets"
  | .foldedDelimiter authority =>
    "netloc '" ++ authority ++ "' contains invalid characters under NFKC normalization"

/-! ## Numeric addresses -/

def split (separator : Char) : List Char → List (List Char)
  | [] => [[]]
  | c :: rest =>
    if c = separator then [] :: split separator rest
    else Text.joinFirst c (split separator rest)

def isOctet (cs : List Char) : Bool :=
  !cs.isEmpty && cs.all Char.isDigit && cs.length ≤ 3 && (cs == ['0'] || cs.head? != some '0') &&
    cs.foldl (fun n c => n * 10 + (c.toNat - 48)) 0 ≤ 255

def isIPv4 (cs : List Char) : Bool :=
  let octets := split '.' cs
  octets.length == 4 && octets.all isOctet

def isGroup (cs : List Char) : Bool :=
  !cs.isEmpty && cs.length ≤ 4 && cs.all Selector.isHex

/-- Groups in which one run of zeros is left out: at least one is missing, and an empty piece at an
end belongs to the run. -/
def areShortened (before after : List (List Char)) : Bool :=
  let before := if before == [[]] then [] else before
  let after := if after == [[]] then [] else after
  before.all isGroup && after.all isGroup && before.length + after.length < 8

/-- The pieces between colons as they stand without the outer ones: where the only empty one is. -/
def emptyInside (pieces : List (List Char)) : List Nat :=
  (List.range pieces.length).filter fun i =>
    0 < i && i + 1 < pieces.length && pieces[i]? == some []

/-- The pieces between colons are an address: eight groups, or fewer with a run left out. -/
def areGroups (pieces : List (List Char)) : Bool :=
  match emptyInside pieces with
  | [] => pieces.length == 8 && pieces.all isGroup
  | [i] => pieces.length ≤ 9 && areShortened (pieces.take i) (pieces.drop (i + 1))
  | _ => false

/-- The pieces between colons, with an address of version four at the end as two groups. -/
def widened (pieces : List (List Char)) : Option (List (List Char)) :=
  match pieces.getLast? with
  | some last =>
    if last.contains '.' then
      if isIPv4 last then some (pieces.dropLast ++ [['0'], ['0']]) else none
    else some pieces
  | none => none

def isIPv6Body (cs : List Char) : Bool :=
  let pieces := split ':' cs
  3 ≤ pieces.length && (widened pieces).any areGroups

def isIPv6 (cs : List Char) : Bool :=
  !cs.contains '/' &&
    match split '%' cs with
    | [body] => isIPv6Body body
    | [body, zone] => !zone.isEmpty && isIPv6Body body
    | _ => false

/-! ## Authorities -/

/-- A host of a version to come: `v`, hexadecimal digits, a point and anything. -/
def isFutureHost : List Char → Bool
  | 'v' :: rest =>
    let version := rest.takeWhile Selector.isHex
    match rest.dropWhile Selector.isHex with
    | '.' :: host => !version.isEmpty && !host.isEmpty && !host.contains '\n'
    | _ => false
  | _ => false

def hostFlaw? (host : List Char) : Option Flaw :=
  if host.head? = some 'v' then if isFutureHost host then none else some .futureHost
  else if isIPv4 host then some .bracketedIPv4
  else if isIPv6 host then none
  else some (.host (String.ofList host))

def afterUser (authority : List Char) : List Char := ((split '@' authority).getLast?).getD []

def bracketFlaw? (authority : List Char) : Option Flaw :=
  let opened := authority.contains '['
  let closed := authority.contains ']'
  if opened != closed then some .brackets
  else if !opened then none
  else
    let place := afterUser authority
    if place.contains '[' then
      let inside := (place.dropWhile (· != '[')).tail
      let behind := (inside.dropWhile (· != ']')).tail
      if place.head? ≠ some '[' ∨ !(behind.isEmpty || behind.head? == some ':') then some .brackets
      else hostFlaw? (inside.takeWhile (· != ']'))
    else hostFlaw? (place.takeWhile (· != ':'))

/-- Characters whose compatibility form has a delimiter in it. -/
def foldingCharacters : List Nat :=
  [0x2047, 0x2048, 0x2049, 0x2100, 0x2101, 0x2105, 0x2106, 0x2A74, 0xFE13, 0xFE16, 0xFE55, 0xFE56,
   0xFE5F, 0xFE6B, 0xFF03, 0xFF0F, 0xFF1A, 0xFF1F, 0xFF20]

def authorityFlaw? (authority : List Char) : Option Flaw :=
  bracketFlaw? authority <|>
    if authority.any fun c => foldingCharacters.contains c.toNat then
      some (.foldedDelimiter (String.ofList authority))
    else none

/-! ## Addresses -/

def isSchemeChar (c : Char) : Bool := c.isAlphanum || c == '+' || c == '-' || c == '.'

/-- The address without control characters and blanks in front, and without tabs and line ends. -/
def cleaned (cs : List Char) : List Char :=
  (cs.dropWhile fun c => c.toNat ≤ 0x20).filter fun c => c != '\t' && c != '\n' && c != '\r'

/-- The scheme, if there is one, and the characters after its colon. -/
def scheme? (cs : List Char) : Option (List Char × List Char) :=
  let scheme := cs.takeWhile (· != ':')
  match cs.dropWhile (· != ':') with
  | ':' :: rest =>
    if scheme.head?.any Char.isAlpha && scheme.all isSchemeChar then some (scheme, rest) else none
  | _ => none

def authority? : List Char → Option (List Char)
  | '/' :: '/' :: rest => some (rest.takeWhile fun c => c != '/' && c != '?' && c != '#')
  | _ => none

/-- An address that can be opened; nothing for a blank one. -/
def complete (raw : String) : Except Flaw String :=
  let url := Text.trim raw
  let cs := cleaned url.toList
  let scheme := scheme? cs
  let rest := (scheme.map Prod.snd).getD cs
  if url = "" then .ok ""
  else
    match (authority? rest).bind authorityFlaw? with
    | some flaw => .error flaw
    | none => .ok (if scheme.isSome then url else "https://" ++ url)

end Url
end StableLocator
