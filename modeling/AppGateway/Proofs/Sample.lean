import AppGateway.Http.Server
import AppGateway.Proofs.Mapping

/-!
# A gateway of one type

The type, the application and the requests on which it is shown that what is proved of all of them has instances.
-/

namespace AppGateway

/-- A type of application. -/
def sampleType : ResourceDefinition where
  application := { kind := "Web", plural := "webs" }
  release := {
    namePrefix := "web-"
    chart := { name := "web", source := { kind := "HelmRepository", name := "charts", ns := "flux" } } }

/-- An application of this type. -/
def sampleApp : Application where
  metadata := { name := some "shop", ns := some "tenant" }
  appVersion := "1"

/-- The release of this application. -/
def webShop : Release := sampleType.toRelease sampleApp none

theorem rereads_webShop : webShop.Rereads := by
  refine sampleType.toRelease_rereads sampleApp ?_ ?_
  · rintro ⟨⟩
  · rintro r ⟨⟩

theorem inScope_webShop : sampleType.inScope webShop = true := sampleType.inScope_toRelease sampleApp none

/-- Answers a get with a record and every other call with an error. -/
def ResourceDefinition.gives (record : Record) (c : BackingCall) (st : Unit) : c.Answer × Unit :=
  match c with
  | .get .. => (.ok record, st)
  | _ => (.error (.api { code := 500 }), st)

namespace Http

namespace Server

/-- A server of this type. -/
def sampleServer : Server where
  registry := ⟨[sampleType]⟩
  now := default

/-- A request for an application of this type. -/
def sampleGet (ns name : String) : Request where
  method := "GET"
  target := { path := "/apis/" ++ groupVersion ++ "/namespaces/" ++ ns ++ "/webs/" ++ name }

end Server

end Http

end AppGateway
