import SnapshotEngine.Text.Blank
import SnapshotEngine.Text.Cut
import SnapshotEngine.Url.Form
import SnapshotEngine.Url.Host
import SnapshotEngine.Url.Path

/-!
# URLs of requests

A URL names a scheme, a host, a path and perhaps a query; what follows a number
sign is not sent.  Control characters and spaces around a URL are dropped, and
so are tabs and line breaks within it.  Only `http` and `https` can be asked, and
only a good host.
-/

namespace SnapshotEngine

/-- A URL that a request can be sent to. -/
structure Url where
  /-- Whether the connection is to be secured. -/
  secure : Bool
  /-- The host, with user and port if they are given. -/
  authority : List Char
  /-- The segments of the path, as they stand in the URL. -/
  path : List (List Char)
  /-- The query, as it stands in the URL. -/
  query : Option (List Char)
deriving DecidableEq, Repr, Inhabited

namespace Url

/-- Control characters of ASCII, and the space. -/
def isEdge (c : Char) : Bool := decide (c.toNat ≤ 0x20)

/-- The characters that are dropped wherever they stand. -/
def isIgnored (c : Char) : Bool := c = '\t' || c = '\n' || c = '\r'

/-- A text without what a URL does not look at. -/
def clean (cs : List Char) : List Char :=
  (Text.strip isEdge cs).filter (!isIgnored ·)

/-- Whether the connection is to be secured under a scheme. -/
def secure? (scheme : List Char) : Option Bool :=
  match scheme.map Char.toLower with
  | ['h', 't', 't', 'p'] => some false
  | ['h', 't', 't', 'p', 's'] => some true
  | _ => none

/-- Whether a character ends the host. -/
def endsAuthority (c : Char) : Bool :=
  UrlPath.isSlash c || c = '?' || c = '#'

/-- The host and port of an authority, without the user. -/
def hostPart (authority : List Char) : List Char :=
  match Text.cutLast '@' authority with
  | some (_, host) => host
  | none => authority

/-- Whether an authority names a host. -/
def namesHost (authority : List Char) : Bool :=
  UrlHost.isHostAndPort (hostPart authority)

/-- The bytes that stand as they are in a query. -/
def isPlainInQuery (b : UInt8) : Bool :=
  let n := b.toNat
  0x20 < n && n < 0x7F && n != 0x22 && n != 0x23 && n != 0x27 && n != 0x3C && n != 0x3E

/-- The path and query that a text names, up to its number sign. -/
def pathAndQuery (cs : List Char) : List (List Char) × Option (List Char) :=
  let shown := cs.takeWhile (· ≠ '#')
  let path := shown.takeWhile (· ≠ '?')
  let query :=
    match shown.dropWhile (· ≠ '?') with
    | [] => none
    | _ :: query => some (Percent.encode isPlainInQuery (query.flatMap Utf8.encodeChar))
  (UrlPath.normalize (path.drop 1), query)

/-- The URL that a text stands for. -/
def parse? (text : String) : Option Url := do
  let cs := clean text.toList
  let scheme := cs.takeWhile (· ≠ ':')
  let secure ← secure? scheme
  let afterColon ←
    match cs.dropWhile (· ≠ ':') with
    | _ :: rest => some rest
    | [] => none
  let rest := afterColon.dropWhile UrlPath.isSlash
  let authority := rest.takeWhile (!endsAuthority ·)
  if namesHost authority then
    let (path, query) := pathAndQuery (rest.dropWhile (!endsAuthority ·))
    return { secure := secure, authority := authority, path := path, query := query }
  else none

/-- The same URL with pairs added to its query. -/
def withPairs (u : Url) (pairs : List (String × String)) : Url :=
  let more := Form.encode pairs
  { u with
    query := some (match u.query with
      | none | some [] => more
      | some query => query ++ '&' :: more) }

/-- What of a URL is sent to the host. -/
def target (u : Url) : String :=
  String.ofList (UrlPath.render u.path
    ++ match u.query with
      | some query => '?' :: query
      | none => [])

end Url

end SnapshotEngine
