import AppGateway.Config.Validation
import AppGateway.Yaml.Node

/-!
# Configuration files

A configuration is written in YAML.  Every scalar reads as its text where a text is wanted, fields that nobody asks
for are skipped, and a list, map or configuration that is left out is empty.  `ResourceConfig.ofYaml` reads and validates
a text, and `ResourceConfig.ofFile` does so with what was read from a file.
-/

namespace AppGateway

/-- A named field of a record. -/
abbrev Fields := List (String × Yaml.Node)

namespace Fields

/-- Reads a field; a missing one has the default. -/
def read {α : Type} (fs : Fields) (key : String) (read : Yaml.Node → Option α) (default : α) : Option α :=
  match fs.lookup key with
  | some node => read node
  | none => some default

/-- Reads a field that has to be there. -/
def required {α : Type} (fs : Fields) (key : String) (read : Yaml.Node → Option α) : Option α :=
  (fs.lookup key).bind read

end Fields

/-- Reads a map from text to text, in which later entries replace earlier ones. -/
def StringMap.ofNode? (node : Yaml.Node) : Option StringMap := do
  let members ← node.members?
  let entries ← members.mapM fun (key, value) => value.text?.map (key, ·)
  return .ofList entries

/-- Reads the names of a type. -/
def ResourceNames.ofNode? (node : Yaml.Node) : Option ResourceNames := do
  let fs : Fields ← node.fields? ["kind", "singular", "plural", "shortNames"]
  return {
    kind := ← fs.required "kind" Yaml.Node.text?
    singular := ← fs.read "singular" Yaml.Node.text? ""
    plural := ← fs.required "plural" Yaml.Node.text?
    shortNames := ← fs.read "shortNames" (Yaml.Node.listOf Yaml.Node.text?) [] }

/-- Reads a source. -/
def SourceRef.ofNode? (node : Yaml.Node) : Option SourceRef := do
  let fs : Fields ← node.fields? ["kind", "name", "namespace"]
  return {
    kind := ← fs.required "kind" Yaml.Node.text?
    name := ← fs.required "name" Yaml.Node.text?
    ns := ← fs.required "namespace" Yaml.Node.text? }

/-- Reads a chart identity. -/
def ChartIdentity.ofNode? (node : Yaml.Node) : Option ChartIdentity := do
  let fs : Fields ← node.fields? ["name", "sourceRef"]
  return {
    name := ← fs.required "name" Yaml.Node.text?
    source := ← fs.required "sourceRef" SourceRef.ofNode? }

/-- Reads a release template. -/
def ReleaseTemplate.ofNode? (node : Yaml.Node) : Option ReleaseTemplate := do
  let fs : Fields ← node.fields? ["prefix", "labels", "chart"]
  return {
    namePrefix := ← fs.required "prefix" Yaml.Node.text?
    labels := ← fs.read "labels" StringMap.ofNode? .empty
    chart := ← fs.required "chart" ChartIdentity.ofNode? }

/-- Reads a definition. -/
def ResourceDefinition.ofNode? (node : Yaml.Node) : Option ResourceDefinition := do
  let fs : Fields ← node.fields? ["application", "release"]
  return {
    application := ← fs.required "application" ResourceNames.ofNode?
    release := ← fs.required "release" ReleaseTemplate.ofNode? }

namespace ResourceConfig

/-- Reads a configuration. -/
def ofNode? (node : Yaml.Node) : Option ResourceConfig := do
  let fs : Fields ← node.fields? ["resources"]
  return { resources := ← fs.read "resources" (Yaml.Node.listOf ResourceDefinition.ofNode?) [] }

/-- Reads and validates a configuration. -/
def ofYaml (text : String) : Except Fault ResourceConfig :=
  match (Yaml.Node.parse text).bind ofNode? with
  | some config => config.validate.map fun _ => config
  | none => .error (.serialization none ("invalid resource config: " ++ Fault.unexpectedStructure))

/-- Reads and validates the configuration in a file, given what reading the file came to. -/
def ofFile (path : String) (content : Except FileProblem String) : Except Fault ResourceConfig :=
  match content with
  | .ok text => ofYaml text
  | .error problem => .error (.file path problem)

end ResourceConfig

end AppGateway
