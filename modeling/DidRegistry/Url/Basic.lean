import DidRegistry.Report
import DidRegistry.Text.Numeral
import DidRegistry.Url.Host

/-!
# Addresses of the web

An address has a scheme, the name of a user, a host, a port, a path, a query and a fragment, and any of
them may be missing.  It is read in the form in which it is sent: scheme and host in lower case, no port
that the scheme implies, no `.` or `..` in the path, and escapes for what has no place.

## Results

* `Url.target_isAbsolute` — an absolute address is sent as it is.
-/

set_option autoImplicit false

namespace DidRegistry

/-- An address. -/
structure Url where
  scheme : List Char
  user : List Char
  host : List Char
  port : Option Int
  path : List Char
  query : Option (List Char)
  fragment : Option (List Char)
deriving DecidableEq, Repr

namespace Url

/-- Why a text is no address, or an address cannot be used. -/
inductive Error where
  | invalid
  /-- A part has no bytes, or the host is not ASCII. -/
  | unencodable
  /-- The host does not stand for an internationalized name. -/
  | label (error : LabelError)
deriving DecidableEq, Repr

/-- The report of the error. -/
def Error.report : Error → Report
  | .invalid => .silent .url
  | .unencodable => .silent .unencodable
  | .label .form => .silent .hostLabel
  | .label .undecodable => (Report.silent .hostLabel).because (.silent .encoding)
  | .label .joiner => (Report.silent .hostLabel).because (.silent .hostContext)
  | .label .unknownNeighbour => (Report.silent .hostLabel).because (.silent .value)
  | .label .forbidden => .silent .hostCodePoint
  | .label .context => .silent .hostContext
  | .label .direction => .silent .hostDirection

/-! ## Taking apart -/

/-- The greatest number of characters of an address, and of a part of one. -/
def lengthLimit : Nat := 65536

/-- Whether a point is one of some characters. -/
def isOneOf (cs : List Char) (p : Point) : Bool := (p.char?.map cs.contains).getD false

/-- Whether a point may stand in a scheme. -/
def isSchemePoint (p : Point) : Bool :=
  p.toChar.isAlphanum || isOneOf ['+', '.', '-'] p

/-- The scheme in front of a colon, which may be missing, and the rest. -/
def splitScheme (ps : List Point) : List Char × List Point :=
  let word := (ps.takeWhile isSchemePoint).map Point.toChar
  match ps.dropWhile isSchemePoint with
  | .char ':' :: r => if word.head?.all Char.isAlpha then (word, r) else ([], ps)
  | _ => ([], ps)

/-- The authority behind two slashes, and the rest. -/
def splitAuthority : List Point → List Point × List Point
  | .char '/' :: .char '/' :: r => r.span fun p => !isOneOf ['/', '?', '#'] p
  | ps => ([], ps)

/-- What follows on a mark, if it stands in front. -/
def behind? (mark : Char) : List Point → Option (List Point)
  | .char c :: r => if c = mark then some r else none
  | _ => none

/-- The host of a place, in brackets or in front of a colon, and the port. -/
def splitPlace (place : List Point) : List Point × List Point :=
  let (host, r) :=
    if (behind? '[' place).isSome && place.any (isOneOf [']']) then
      let (inside, r) := splitLast (isOneOf [']']) place
      (inside ++ [.char ']'], r)
    else place.span fun p => !isOneOf [':'] p
  (host, (behind? ':' r).getD r)

/-! ## The form in which an address is sent -/

/-- The port that a scheme implies. -/
def impliedPort? (scheme : List Char) : Option Int :=
  match String.ofList scheme with
  | "ftp" => some 21
  | "http" | "ws" => some 80
  | "https" | "wss" => some 443
  | _ => none

/-- The port that a numeral says, unless the scheme implies it. -/
def portOf (scheme : List Char) (numeral : List Point) : Except Error (Option Int) :=
  if numeral.isEmpty then .ok none
  else
    match Text.Numeral.decimal? ⟨numeral⟩ with
    | .ok n => .ok (if impliedPort? scheme = some n then none else some n)
    | .error _ => .error .invalid

/-- Goes on with a segment of a path; those before it are given with the last one first. -/
def addSegment (before : List (List Point)) (segment : List Point) : List (List Point) :=
  if segment = [.char '.'] then before
  else if segment = [.char '.', .char '.'] then
    if before = [[]] then before else before.tail
  else segment :: before

/-- A path without `.` and `..`. -/
def plainPath (path : List Point) : List Point :=
  [Point.char '/'].intercalate (((pieces (isOneOf ['/']) path).foldl addSegment []).reverse)

/-- Whether a path can stand in front: it begins with no more than one slash and with no colon. -/
def canLead (path : List Point) : Bool :=
  match path with
  | .char ':' :: _ => false
  | .char '/' :: .char '/' :: _ => false
  | _ => true

/-- A part with escapes. -/
def part (escaped : List Char) (ps : List Point) : Except Error (List Char) :=
  match escape? escaped ps with
  | some cs => .ok cs
  | none => .error .unencodable

/-- The address that a text says. -/
def parse (t : Text) : Except Error Url := do
  if lengthLimit < t.points.length ∨ t.points.any fun p => p.code < 0x20 || p.code == 0x7f then
    throw .invalid
  let (scheme, r) := splitScheme t.points
  let (authority, r) := splitAuthority r
  let (path, r) := r.span fun p => !isOneOf ['?', '#'] p
  let (query, r) := match behind? '?' r with
    | some r => let (query, r) := r.span fun p => !isOneOf ['#'] p; (some query, r)
    | none => (none, r)
  let (user, place) := splitLast (isOneOf ['@']) authority
  let user ← part escapedInUser user
  let (host, port) := splitPlace place
  let host ← match host? host with
    | some host => pure host
    | none => throw .invalid
  let port ← portOf scheme port
  let isBare := scheme.isEmpty && user.isEmpty && host.isEmpty && port.isNone
  if isBare && !canLead path then throw .invalid
  return {
    scheme := scheme.map Char.toLower
    user, host, port
    path := ← part escapedInPath (if isBare then path else plainPath path)
    query := ← query.mapM (part escapedInQuery)
    fragment := ← (behind? '#' r).mapM (part escapedInFragment) }

/-- The host as it is written: a version 6 address in brackets. -/
def hostText (u : Url) : List Char :=
  if u.host.contains ':' then '[' :: u.host ++ [']'] else u.host

/-- The authority: user, host and port. -/
def authority (u : Url) : List Char :=
  (if u.user.isEmpty then [] else u.user ++ ['@']) ++ u.hostText ++
    match u.port with
    | some n => ':' :: Text.signedDecimal n
    | none => []

/-- The text of an address. -/
def toChars (u : Url) : List Char :=
  let marked := fun (mark : Char) (p : Option (List Char)) => (p.map (mark :: ·)).getD []
  (if u.scheme.isEmpty then [] else u.scheme ++ [':']) ++
    (if u.authority.isEmpty then [] else '/' :: '/' :: u.authority) ++ u.path ++
    marked '?' u.query ++ marked '#' u.fragment

/-! ## Using an address -/

/-- Whether an address says a host and how it is spoken to. -/
def isAbsolute (u : Url) : Bool := !u.scheme.isEmpty && !u.host.isEmpty

/-- The address that a request goes to: of one that is not absolute, the path and the query. -/
def target (u : Url) : Except Error Url :=
  if u.isAbsolute then .ok u
  else if lengthLimit < u.path.length ∨ u.query.any fun q => lengthLimit < q.length then .error .invalid
  else .ok ⟨[], [], [], none, '/' :: u.path.dropWhile (· == '/'), u.query, none⟩

/-- The address that a request to what a text says goes to. -/
def destination (t : Text) : Except Error Url := (parse t).bind target

/-- Refuses an address whose host cannot be looked up. -/
def checkHost (u : Url) : Except Error Unit :=
  if u.host.any fun c => 128 ≤ c.toNat then .error .unencodable
  else if Domain.mark.isPrefixOf u.host then
    (Domain.check (u.host.map Char.toNat)).mapError .label
  else .ok ()

/-- An absolute address is sent as it is. -/
theorem target_isAbsolute {u : Url} (h : u.isAbsolute = true) : u.target = .ok u := by
  simp [target, h]

end Url

end DidRegistry
