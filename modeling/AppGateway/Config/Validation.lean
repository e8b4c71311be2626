import AppGateway.Config.Definition
import AppGateway.Fault

/-!
# Validation of a configuration

Every entry must have a kind, a plural, a name prefix, a chart name and a complete chart source, and no two entries
may share a plural.  `ResourceConfig.validate` reports the first fault of the first faulty entry.
-/

namespace AppGateway

namespace ResourceDefinition

/-- The fields that have to be filled in, each with the fault reported when it is not, in the order in which they
are checked. -/
def requirements (d : ResourceDefinition) : List (Bool × String × String) :=
  let source := d.release.chart.source
  [ (!d.application.kind.isEmpty, "application.kind", "empty kind"),
    (!d.application.plural.isEmpty, "application.plural", "empty plural"),
    (!d.release.namePrefix.isEmpty, "release.prefix", "empty release prefix"),
    (!d.release.chart.name.isEmpty, "release.chart.name", "empty chart name"),
    (!source.kind.isEmpty && !source.name.isEmpty && !source.ns.isEmpty, "release.chart.sourceRef",
      "incomplete chart sourceRef") ]

/-- The first fault of an entry on its own. -/
def fault? (d : ResourceDefinition) (index : Nat) : Option Fault :=
  (d.requirements.find? (!·.1)).map fun r => .validation index r.2.1 r.2.2

end ResourceDefinition

namespace ResourceConfig

/-- The first fault of the entries from `index` on, after entries with the plurals `seen`. -/
def firstFault? (seen : List String) (index : Nat) : List ResourceDefinition → Option Fault
  | [] => none
  | d :: rest =>
    match d.fault? index with
    | some fault => some fault
    | none =>
      if seen.contains d.application.plural then
        some (.validation index "application.plural" ("duplicate plural " ++ d.application.plural))
      else firstFault? (d.application.plural :: seen) (index + 1) rest

/-- Checks a configuration. -/
def validate (c : ResourceConfig) : Except Fault Unit :=
  match firstFault? [] 0 c.resources with
  | some fault => .error fault
  | none => .ok ()

end ResourceConfig

end AppGateway
