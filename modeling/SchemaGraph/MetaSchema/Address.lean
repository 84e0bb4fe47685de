import SchemaGraph.Fault
import SchemaGraph.Text.Split

/-! Addresses of meta-schemas.

An address has a scheme, a host, a path, a query and a fragment, any of which may be
missing (`Address.ofText`). A host in square brackets is one of the numeric kind, and a
host may hold no character that becomes a mark between the parts once it is written in
its compatible form. Two spellings of one address have one text (`Address.text`): the
scheme is in lower case, and there is no mark in front of an empty query or fragment. -/
namespace SchemaGraph.MetaSchema

structure Address where
  scheme : List Char := []
  host : List Char := []
  path : List Char := []
  query : List Char := []
  fragment : List Char := []
  deriving Repr, DecidableEq

namespace Address

/-! ### Numeric hosts -/

/-- The text before the first `mark`, and the text behind it if there is one. -/
def cutAt (mark : Char) (text : List Char) : List Char × Option (List Char) :=
  match text.dropWhile (· != mark) with
  | [] => (text, none)
  | _ :: rest => (text.takeWhile (· != mark), some rest)

def isHexDigit (c : Char) : Bool :=
  c.isDigit || ('a' ≤ c && c ≤ 'f') || ('A' ≤ c && c ≤ 'F')

/-- A group of up to four hexadecimal digits. -/
def isGroup (text : List Char) : Bool :=
  !text.isEmpty && text.length ≤ 4 && text.all isHexDigit

/-- A number below 256 in decimal, without zeros in front. -/
def isByte (text : List Char) : Bool :=
  match (String.ofList text).toNat? with
  | some value => value < 256 && text == Nat.toDigits 10 value
  | none => false

/-- Four bytes with points between them. -/
def isShortNumeric (text : List Char) : Bool :=
  let bytes := Text.splitBy (· == '.') text
  bytes.length == 4 && bytes.all isByte

/-- Groups on one side of a double colon, which may have none. -/
def areGroups (groups : List (List Char)) : Bool :=
  groups == [[]] || groups.all isGroup

/-- Eight groups with colons between them. Four bytes may stand for the last two groups,
and a double colon for one or more. -/
def isGroups (text : List Char) : Bool :=
  let parts := Text.splitBy (· == ':') text
  let last := parts.getLastD []
  let parts := if isShortNumeric last then parts.dropLast ++ [['0'], ['0']] else parts
  let inner := (parts.drop 1).dropLast
  if 3 ≤ (Text.splitBy (· == ':') text).length && inner.contains [] then
    let before := parts.head?.toList ++ inner.takeWhile (!·.isEmpty)
    let behind := parts.drop (before.length + 1)
    let groups := (before ++ behind).filter (!·.isEmpty)
    areGroups before && areGroups behind && groups.length < 8
  else parts.length == 8 && parts.all isGroup

/-- A host for brackets: groups, perhaps with a zone, or a version and more. -/
def isBracketed (text : List Char) : Bool :=
  match text with
  | 'v' :: rest =>
    let version := rest.takeWhile isHexDigit
    match rest.drop version.length with
    | '.' :: _ :: _ => !version.isEmpty
    | _ => false
  | _ =>
    let (groups, zone?) := cutAt '%' text
    isGroups groups && zone?.all fun zone => !zone.isEmpty && !zone.contains '%'

/-! ### Reading -/

/-- Characters whose compatible form has a mark between the parts of an address. -/
def disguised : List Char := [
  '\u2047', '\u2048', '\u2049', '\u2100', '\u2101', '\u2105', '\u2106', '\u2A74', '\uFE13',
  '\uFE16', '\uFE55', '\uFE56', '\uFE5F', '\uFE6B', '\uFF03', '\uFF0F', '\uFF1A', '\uFF1F',
  '\uFF20']

def isHost (host : List Char) : Bool :=
  let hasBrackets := host.contains '[' && host.contains ']'
  let inside := (cutAt ']' ((cutAt '[' host).2.getD [])).1
  host.contains '[' == host.contains ']' && (!hasBrackets || isBracketed inside) &&
    !host.any disguised.contains

/-- May stand in a scheme behind its first letter. -/
def isSchemeChar (c : Char) : Bool := c.isAlphanum || c == '+' || c == '-' || c == '.'

/-- The scheme in front of a text, in lower case, and what follows it. -/
def cutScheme (text : List Char) : List Char × List Char :=
  match cutAt ':' text with
  | (c :: more, some rest) =>
    if c.isAlpha && more.all isSchemeChar then ((c :: more).map Char.toLower, rest) else ([], text)
  | _ => ([], text)

/-- The host in front of a text, behind two slashes, and what follows it. -/
def cutHost : List Char → List Char × List Char
  | '/' :: '/' :: rest =>
    let host := rest.takeWhile fun c => c != '/' && c != '?' && c != '#'
    (host, rest.drop host.length)
  | text => ([], text)

/-- The address that a text gives. Controls and blanks in front and line ends and tabs
anywhere count for nothing. -/
def ofText (text : String) : Except Fault Address := do
  let text := (text.toList.dropWhile (·.toNat ≤ 0x20)).filter
    fun c => c != '\t' && c != '\n' && c != '\r'
  let (scheme, rest) := cutScheme text
  let (host, rest) := cutHost rest
  if !isHost host then throw .illegalHost
  let (rest, fragment) := cutAt '#' rest
  let (path, query) := cutAt '?' rest
  return { scheme, host, path, query := query.getD [], fragment := fragment.getD [] }

/-! ### Writing -/

/-- Schemes whose addresses have a host, be it an empty one. -/
def hostedSchemes : List String := ["http", "https"]

def location (address : Address) : List Char :=
  let hosted := hostedSchemes.contains (String.ofList address.scheme)
  let isRooted := ['/'].isPrefixOf address.path
  if !address.host.isEmpty || (hosted && !(['/', '/'].isPrefixOf address.path)) then
    let slash := if address.path.isEmpty || isRooted then [] else ['/']
    '/' :: '/' :: address.host ++ slash ++ address.path
  else address.path

/-- A part behind its mark, or nothing. -/
def marked (mark : Char) (part : List Char) : List Char :=
  if part.isEmpty then [] else mark :: part

def text (address : Address) : String :=
  let scheme := if address.scheme.isEmpty then [] else address.scheme ++ [':']
  String.ofList (scheme ++ address.location ++ marked '?' address.query ++
    marked '#' address.fragment)

end Address
end SchemaGraph.MetaSchema
