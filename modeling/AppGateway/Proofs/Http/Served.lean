import AppGateway.Proofs.Config.Validation
import AppGateway.Proofs.Http.Handling
import AppGateway.Proofs.Sample

/-!
# Which types are served

The discovery document of a validated configuration lists the plural of each entry once, in order, and these are the
plurals at which a type is found: the one of the entry (`Registry.get?_eq_some_iff`, `Server.resolve_eq_ok_iff`).  A
request for any other is answered that nothing is found (`Server.handle_of_resolve_error`).

* `discovery_registry_and_routing_agree`: what is configured, what is listed and what is found are the same.
-/

namespace AppGateway

/-- The plural and the kind of each entry of a configuration, in order. -/
def ResourceConfig.types (c : ResourceConfig) : List (String × String) :=
  c.resources.map fun d => (d.application.plural, d.application.kind)

private theorem ResourceConfig.plurals_types (c : ResourceConfig) : c.types.map (·.1) = plurals c.resources := by
  rw [types, List.map_map]
  rfl

namespace Registry

variable {r : Registry} {plural : String} {d : ResourceDefinition}

/-- Where no plural is given twice, a definition is found by its own. -/
theorem get?_eq_some_iff (h : (ResourceConfig.plurals r.definitions).Nodup) :
    r.get? plural = some d ↔ d ∈ r.definitions ∧ d.application.plural = plural := by
  constructor
  · intro hfound
    exact ⟨List.mem_of_find?_eq_some hfound, by simpa using List.find?_some hfound⟩
  · rintro ⟨hmem, rfl⟩
    obtain ⟨d', hfound⟩ : ∃ d', r.get? d.application.plural = some d' := by
      refine Option.isSome_iff_exists.mp (List.find?_isSome.mpr ⟨d, hmem, ?_⟩)
      exact beq_self_eq_true _
    have hplural : d'.application.plural = d.application.plural := by simpa using List.find?_some hfound
    rw [hfound, List.inj_on_of_nodup_map h (List.mem_of_find?_eq_some hfound) hmem hplural]

private theorem lookup_eq_ok_iff : r.lookup plural = .ok d ↔ r.get? plural = some d := by
  rw [lookup]
  cases r.get? plural with
  | none => simp
  | some d' => simp

private theorem notFound_of_lookup {f : Failure} (h : r.lookup plural = .error f) : f = .resourceNotFound plural := by
  rw [lookup] at h
  cases hget : r.get? plural with
  | none =>
    rw [hget] at h
    exact (Except.error.inj h).symm
  | some d =>
    rw [hget] at h
    cases h

end Registry

namespace Discovery

/-- The plural and the kind in the entry of a type. -/
def typeOf? (entry : Json) : Option (String × String) := do
  return (← (← entry.member? "name").string?, ← (← entry.member? "kind").string?)

/-- The plural and the kind of each type that a document lists, in order. -/
def listed? (document : Json) : Option (List (String × String)) := do
  (← (← document.member? "resources").array?).mapM typeOf?

private theorem typeOf?_resource (d : ResourceDefinition) :
    typeOf? (resource d) = some (d.application.plural, d.application.kind) := rfl

private theorem listed?_resources (r : Registry) :
    listed? (resources r) = some (r.definitions.map fun d => (d.application.plural, d.application.kind)) := by
  show (r.definitions.map resource).mapM typeOf? = _
  induction r.definitions with
  | nil => rfl
  | cons d rest ih => rw [List.map_cons, List.mapM_cons, typeOf?_resource, ih]; rfl

end Discovery

namespace Http

namespace Server

variable {s : Server} {r : Request} {g v p : String} {d : ResourceDefinition} {f : Failure}

/-- A path resolves to a type of the registry, if it has the group and the version of the gateway. -/
theorem resolve_eq_ok_iff :
    s.resolve g v p = .ok d ↔ (g = apiGroup ∧ v = apiVersion) ∧ s.registry.get? p = some d := by
  rw [resolve]
  split
  · rename_i hother
    simp only [reduceCtorEq, false_iff]
    rintro ⟨⟨hg, hv⟩, -⟩
    exact hother.elim (· hg) (· hv)
  · rename_i hserved
    obtain ⟨hg, hv⟩ := not_or.mp hserved
    rw [Registry.lookup_eq_ok_iff]
    exact ⟨fun h => ⟨⟨not_not.mp hg, not_not.mp hv⟩, h⟩, fun h => h.2⟩

theorem notFound_of_resolve (h : s.resolve g v p = .error f) : ∃ path, f = .resourceNotFound path := by
  rw [resolve] at h
  split at h
  · exact ⟨_, (Except.error.inj h).symm⟩
  · exact ⟨p, Registry.notFound_of_lookup h⟩

/-- A request for a type that is not found is answered at once. -/
theorem handle_of_resolve_error {route : Route} (h : r.Reaches route) (htype : route.type? = some (g, v, p))
    (hresolve : s.resolve g v p = .error f) : s.handle r = .done (headOnly r (failed f)) := by
  rw [handle_eq_of_reaches h]
  cases route with
  | clusterCollection g v p =>
    cases htype
    obtain ⟨q, hq⟩ := Option.isSome_iff_exists.mp (h.query rfl)
    rw [handleRoute, onQuery, hq]
    show Exchange.done (headOnly r (s.clusterCollection g v p q)) = _
    rw [clusterCollection, hresolve]
  | collection g v ns p =>
    cases htype
    rw [handleRoute_eq_onType h rfl, onType, hresolve]
    rfl
  | item g v ns p name =>
    cases htype
    rw [handleRoute_eq_onType h rfl, onType, hresolve]
    rfl
  | _ => cases htype

/-- In a server of a validated configuration the registry finds each entry by its plural, the discovery document lists
the plurals with their kinds, each once and in order, and a type is found at a group, a version and a plural just when
these are served and the plural is listed; it is the one of the entry.  Where none is found, the handlers of collections
and items answer so, and ask nothing of the backing store. -/
theorem discovery_registry_and_routing_agree {config : ResourceConfig} (hvalid : config.validate = .ok ())
    (hregistry : s.registry = .ofConfig config) :
    (∀ i (h : i < config.resources.length),
      s.registry.lookup config.resources[i].application.plural = .ok config.resources[i]) ∧
    Discovery.listed? (Discovery.resources s.registry) = some config.types ∧ (config.types.map (·.1)).Nodup ∧
    ∀ g v p,
      ((∃ d, s.resolve g v p = .ok d) ↔ g = apiGroup ∧ v = apiVersion ∧ p ∈ config.types.map (·.1)) ∧
      (∀ d, s.resolve g v p = .ok d →
        ∃ i : Nat, config.types[i]? = some (p, d.application.kind) ∧ config.resources[i]? = some d) ∧
      ∀ f, s.resolve g v p = .error f → ∀ (r : Request) (route : Route), r.Reaches route →
        route.type? = some (g, v, p) → ∃ response : Response,
          s.handle r = .done (headOnly r response) ∧ response.status = 404 ∧ response.Tells "NotFound" := by
  have hnodup : (ResourceConfig.plurals s.registry.definitions).Nodup := by
    rw [hregistry]
    exact ResourceConfig.nodup_plurals hvalid
  have hfound : ∀ p d, s.registry.get? p = some d ↔ d ∈ config.resources ∧ d.application.plural = p := by
    intro p d
    rw [Registry.get?_eq_some_iff hnodup, hregistry]
    rfl
  have hlisted : ∀ p, p ∈ config.types.map (·.1) ↔ ∃ d, s.registry.get? p = some d := by
    intro p
    simp only [config.plurals_types, ResourceConfig.plurals, List.mem_map, hfound]
  refine ⟨fun i hi => ?_, ?_, ?_, fun g v p => ⟨?_, fun d hd => ?_, fun f hf r route hreaches htype => ?_⟩⟩
  · rw [Registry.lookup_eq_ok_iff, hfound]
    exact ⟨List.getElem_mem hi, rfl⟩
  · rw [Discovery.listed?_resources, hregistry]
    rfl
  · rw [config.plurals_types]
    exact ResourceConfig.nodup_plurals hvalid
  · simp only [resolve_eq_ok_iff, hlisted, exists_and_left, and_assoc]
  · obtain ⟨hmem, rfl⟩ := (hfound p d).mp (resolve_eq_ok_iff.mp hd).2
    obtain ⟨i, hi⟩ := List.getElem?_of_mem hmem
    exact ⟨i, by rw [ResourceConfig.types, List.getElem?_map, hi]; rfl, hi⟩
  · obtain ⟨path, rfl⟩ := notFound_of_resolve hf
    exact ⟨_, handle_of_resolve_error hreaches htype hf, rfl, failed_tells (.resourceNotFound path)⟩

/-- A configuration of two types, for examples. -/
def sampleConfig : ResourceConfig where
  resources := [sampleType, { sampleType with application := { kind := "Blog", plural := "blogs" } }]

/-- A request for an application of a type that is not in this configuration. -/
def strayGet : Request where
  method := "GET"
  target := { path := "/apis/" ++ groupVersion ++ "/namespaces/tenant/shops/corner" }

/-- Of two configured types both are listed and routed, and a third one is not found. -/
theorem webs_and_blogs_are_served :
    let s : Server := { registry := .ofConfig sampleConfig, now := default }
    sampleConfig.validate = .ok () ∧
      Discovery.listed? (Discovery.resources s.registry) = some [("webs", "Web"), ("blogs", "Blog")] ∧
      s.registry.lookup "webs" = .ok sampleType ∧ (∃ d, s.resolve apiGroup apiVersion "blogs" = .ok d) ∧
      ∃ response : Response, s.handle strayGet = .done (headOnly strayGet response) ∧ response.status = 404 ∧
        response.Tells "NotFound" := by
  intro s
  have hvalid : sampleConfig.validate = .ok () := by decide +kernel
  obtain ⟨hlookup, hlisted, -, hrouting⟩ := discovery_registry_and_routing_agree hvalid (s := s) rfl
  have hblogs := (hrouting apiGroup apiVersion "blogs").1.mpr ⟨rfl, rfl, by decide +kernel⟩
  have hreaches : strayGet.Reaches (.item apiGroup apiVersion "tenant" "shops" "corner") :=
    Request.reaches_item (by decide +kernel) rfl
  exact ⟨hvalid, hlisted, hlookup 0 (by decide), hblogs,
    (hrouting apiGroup apiVersion "shops").2.2 (.resourceNotFound "shops") rfl strayGet _ hreaches rfl⟩

end Server

end Http

end AppGateway
