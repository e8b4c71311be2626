import AppGateway.Http.Encoding
import AppGateway.Json.Text

/-!
# HTTP requests and responses

A request target is a path and, after a question mark, a query; what follows a number sign is dropped.  Only characters
that may stand in a target are accepted.  A header value counts as text only if it is printable ASCII.
-/

namespace AppGateway

namespace Http

/-- The path and the query of a request. -/
structure Target where
  path : String
  query : Option String := none
deriving DecidableEq, Repr, Inhabited

namespace Target

/-- Whether a character may stand in a path. -/
def isPathChar (c : Char) : Bool :=
  let n := c.toNat
  n == 0x21 || n == 0x22 || (0x24 ≤ n && n ≤ 0x3B) || n == 0x3D || (0x40 ≤ n && n ≤ 0x5F)
    || (0x61 ≤ n && n ≤ 0x7E) || 0x80 ≤ n || n == 0x7F

/-- Whether a character may stand in a query. -/
def isQueryChar (c : Char) : Bool :=
  let n := c.toNat
  n == 0x21 || (0x24 ≤ n && n ≤ 0x3B) || n == 0x3D || 0x3F ≤ n

/-- Reads a target that starts with its path. -/
def ofChars? (cs : List Char) : Option Target :=
  let cs := cs.takeWhile (· ≠ '#')
  let path := cs.takeWhile (· ≠ '?')
  if !path.all isPathChar then none
  else
    match cs.dropWhile (· ≠ '?') with
    | [] => some { path := String.ofList path }
    | _ :: query =>
      if query.all isQueryChar then some { path := String.ofList path, query := some (String.ofList query) }
      else none

/-- Reads a target: a path, a star, or a path after a scheme and an authority.  An authority alone has no path. -/
def ofText? (s : String) : Option Target :=
  match s.toList with
  | [] => none
  | ['*'] => some { path := "*" }
  | '/' :: rest => ofChars? ('/' :: rest)
  | cs =>
    let authority := fun (cs : List Char) => cs.takeWhile fun c => c ≠ '/' ∧ c ≠ '?' ∧ c ≠ '#'
    let isAuthority := fun (cs : List Char) =>
      !cs.isEmpty && cs.all fun c => isPathChar c && c ≠ '"' && c ≠ '\x7b' && c ≠ '\x7d'
    let scheme := cs.takeWhile fun c => c.isAlphanum || c = '+' || c = '-' || c = '.'
    match cs.drop scheme.length with
    | ':' :: '/' :: '/' :: rest =>
      let host := authority rest
      if scheme.isEmpty || !isAuthority host then none
      else
        match rest.drop host.length with
        | [] => some { path := "/" }
        | '/' :: path => ofChars? ('/' :: path)
        | other => (ofChars? other).map fun t => { t with path := "/" }
    | _ => if isAuthority cs && authority cs == cs then some { path := "" } else none

end Target

/-- A request. -/
structure Request where
  method : String
  target : Target
  headers : List (String × String) := []
  /-- The body, which is text: bodies whose bytes are not UTF-8 are left out. -/
  body : String := ""
deriving DecidableEq, Repr, Inhabited

namespace Request

/-- Whether a character may stand in a method or in the name of a header. -/
def isTokenChar (c : Char) : Bool :=
  c.isAlphanum || "!#$%&'*+-.^_|~".toList.contains c || c.toNat == 0x60

/-- Whether a text is a method or the name of a header. -/
def isToken (s : String) : Bool :=
  !s.isEmpty && s.toList.all isTokenChar

/-- Whether a character may stand in the value of a header. -/
def isValueChar (c : Char) : Bool :=
  c = '\t' || (0x20 ≤ c.toNat && c.toNat ≠ 0x7F)

/-- A header value as text; none unless it is printable ASCII. -/
def readable? (value : String) : Option String :=
  if value.toList.all fun c => c = '\t' || (0x20 ≤ c.toNat && c.toNat < 0x7F) then some value else none

/-- The values of a header, in order. -/
def headerValues (r : Request) (name : String) : List String :=
  (r.headers.filter fun h => h.1.toLower == name).map (·.2)

/-- The first value of a header as text, empty when there is none to read. -/
def headerText (r : Request) (name : String) : String :=
  (((r.headerValues name).head?).bind readable?).getD ""

/-- The pairs of the query. -/
def queryPairs (r : Request) : List (String × String) :=
  formPairs (r.target.query.getD "")

end Request

/-- A response. -/
structure Response where
  status : Nat
  contentType : Option String := none
  allow : Option String := none
  body : String := ""
deriving DecidableEq, Repr, Inhabited

namespace Response

/-- A response with a JSON body. -/
def json (status : Nat) (body : Json) : Response where
  status
  contentType := some "application/json"
  body := body.toText

/-- A response with a text body. -/
def text (status : Nat) (body : String) : Response where
  status
  contentType := some "text/plain; charset=utf-8"
  body

/-- A response whose body is one JSON value a line. -/
def lines (values : List Json) : Response where
  status := 200
  contentType := some "application/json"
  body := String.join (values.map fun v => v.toText ++ "\n")

end Response

end Http

end AppGateway
