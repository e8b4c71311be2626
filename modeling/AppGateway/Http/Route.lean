import AppGateway.Http.Message

/-!
# Routes

The paths that are served, and the methods allowed on each.  Segments stand for themselves or for a parameter.  A path
does not end with a slash, so its last segment is never empty, though a parameter before it may be.  Parameters are
percent-decoded and have to be UTF-8.
-/

namespace AppGateway

namespace Http

/-- A path that is served, with its parameters. -/
inductive Route where
  | health
  | groups
  | group (group : String)
  | version (group version : String)
  | clusterCollection (group version plural : String)
  | collection (group version ns plural : String)
  | item (group version ns plural name : String)
deriving DecidableEq, Repr, Inhabited

namespace Route

/-- The segments of a path that starts with a slash; none when the last of them is empty. -/
def segments? (path : String) : Option (List (List Char)) :=
  match path.toList with
  | '/' :: rest =>
    let segments := Text.splitOn '/' rest
    if segments.getLast? == some [] then none else some segments
  | _ => none

/-- The route of a path, its parameters as they stand there. -/
def ofPath? (path : String) : Option Route := do
  match (← segments? path).map String.ofList with
  | ["healthz"] => some .health
  | ["readyz"] => some .health
  | ["apis"] => some .groups
  | ["apis", g] => some (.group g)
  | ["apis", g, v] => some (.version g v)
  | ["apis", g, v, plural] => some (.clusterCollection g v plural)
  | ["apis", g, v, "namespaces", ns, plural] => some (.collection g v ns plural)
  | ["apis", g, v, "namespaces", ns, plural, name] => some (.item g v ns plural name)
  | _ => none

/-- Decodes a parameter, or names it when it is not UTF-8. -/
def decodeParameter (name value : String) : Except String String :=
  match decodeSegment? value.toList with
  | some s => .ok s
  | none => .error name

/-- Decodes the parameters of a route, or names the first one that is not UTF-8. -/
def decoded : Route → Except String Route
  | .health => .ok .health
  | .groups => .ok .groups
  | .group g => return .group (← decodeParameter "group" g)
  | .version g v => return .version (← decodeParameter "group" g) (← decodeParameter "version" v)
  | .clusterCollection g v p =>
    return .clusterCollection (← decodeParameter "group" g) (← decodeParameter "version" v)
      (← decodeParameter "plural" p)
  | .collection g v ns p =>
    return .collection (← decodeParameter "group" g) (← decodeParameter "version" v)
      (← decodeParameter "namespace" ns) (← decodeParameter "plural" p)
  | .item g v ns p n =>
    return .item (← decodeParameter "group" g) (← decodeParameter "version" v)
      (← decodeParameter "namespace" ns) (← decodeParameter "plural" p) (← decodeParameter "name" n)

/-- The methods allowed on a route. -/
def methods : Route → List String
  | .collection .. => ["GET", "HEAD", "POST"]
  | .item .. => ["GET", "HEAD", "PUT", "PATCH", "DELETE"]
  | _ => ["GET", "HEAD"]

end Route

end Http

end AppGateway
