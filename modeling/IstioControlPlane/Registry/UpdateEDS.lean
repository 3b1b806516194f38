import IstioControlPlane.Registry.SliceCache
import IstioControlPlane.Registry.Builder

namespace IstioControlPlane.Registry.UpdateEDS

open Go Types SliceCache Builder

structure EndpointSliceController where
  c : Controller
  informer : GoMap (String × String) EndpointSlice
  endpointCache : EndpointSliceCache

/-- What `updateEDS` builds for address `a` of endpoint `e`: nothing when the address has no
pod while `e` targets a Pod, else one endpoint per slice port. -/
def addressEndpoints (c : Controller) (slice : EndpointSlice) (e : Endpoint) (a : String) :
    Except Panic (List IstioEndpoint) :=
  let pod := c.pods a
  if pod.isNone && e.targetRef.any (·.kind == "Pod") then pure []
  else do
    let builder ← newEndpointBuilder pod e
    pure (slice.ports.map fun port ↦
      builder.buildIstioEndpoint a (port.port.getD 0) (port.name.getD ""))

def endpointEndpoints (c : Controller) (slice : EndpointSlice) (e : Endpoint) :
    Except Panic (List IstioEndpoint) :=
  if e.conditions.ready = some false then pure []
  else List.flatten <$> e.addresses.mapM (addressEndpoints c slice e)

def buildEndpoints (c : Controller) (slice : EndpointSlice) : Except Panic (List IstioEndpoint) :=
  List.flatten <$> slice.endpoints.mapM (endpointEndpoints c slice)

def sliceHostname (c : Controller) (slice : EndpointSlice) : String :=
  serviceHostname (slice.labels.get labelServiceName) slice.ns c.domainSuffix

/-- Modelled from the spec (section 6): `kubeEndpoints.handleEvent` is absent; a handler gets
the event with its payload, so `fn` is called on the object handed over. -/
def handleEvent {α : Type} (ep : Object) (event : Event) (fn : Object → Event → α) : α :=
  fn ep event

namespace EndpointSliceController

def updateEDS (esc : EndpointSliceController) (es : Object) (event : Event) :
    Except Panic (EndpointSliceController × Option EDSUpdate) :=
  match es with
  | .endpointSlice slice =>
    let hostname := sliceHostname esc.c slice
    match esc.c.servicesMap.lookup hostname with
    | none => pure (esc, none)
    | some _ => do
      let endpoints ← if event ≠ .delete then buildEndpoints esc.c slice else pure []
      let endpointCache := esc.endpointCache.update hostname slice.name endpoints
      pure ({ esc with endpointCache },
        some ⟨esc.c.clusterID, hostname, slice.ns, endpointCache.get hostname⟩)
  | .deletedFinalStateUnknown _ _ =>
    throw ⟨"interface conversion: interface \x7b\x7d is cache.DeletedFinalStateUnknown, " ++
      "not *v1alpha1.EndpointSlice"⟩
  | .other => throw ⟨"interface conversion: interface \x7b\x7d is not *v1alpha1.EndpointSlice"⟩

/-- `onEvent`: before the sync, the error of `checkReadyForEvents`, for the queue to retry;
otherwise a slice or a tombstone of one goes on, as received, to `updateEDS`. -/
def onEvent (esc : EndpointSliceController) (curr : Object) (event : Event) :
    Except Panic (EndpointSliceController × Option EDSUpdate × Option String) :=
  match esc.c.checkReadyForEvents with
  | some err => pure (esc, none, some err)
  | none =>
    match curr with
    | .endpointSlice _ | .deletedFinalStateUnknown _ (.endpointSlice _) =>
      (fun r ↦ (r.1, r.2, none)) <$> handleEvent curr event esc.updateEDS
    | _ => pure (esc, none, none)

variable (esc : EndpointSliceController) (slice : EndpointSlice) (event : Event)

theorem updateEDS_skip (h : esc.c.servicesMap.lookup (sliceHostname esc.c slice) = none) :
    esc.updateEDS (.endpointSlice slice) event = .ok (esc, none) := by
  simp [updateEDS, h, pure, Except.pure]

theorem updateEDS_write {svc : Service}
    (h : esc.c.servicesMap.lookup (sliceHostname esc.c slice) = some svc) :
    esc.updateEDS (.endpointSlice slice) event =
      (fun endpoints ↦
        let endpointCache :=
          esc.endpointCache.update (sliceHostname esc.c slice) slice.name endpoints
        (({ esc with endpointCache } : EndpointSliceController),
          some ⟨esc.c.clusterID, sliceHostname esc.c slice, slice.ns,
            endpointCache.get (sliceHostname esc.c slice)⟩)) <$>
      (if event ≠ .delete then buildEndpoints esc.c slice else pure []) := by
  simp only [updateEDS, h]
  split_ifs
  · cases buildEndpoints esc.c slice <;> rfl
  · rfl

theorem onEvent_tombstone (h : esc.c.checkReadyForEvents = none) (key : String) :
    esc.onEvent (.deletedFinalStateUnknown key (.endpointSlice slice)) event =
      .error ⟨"interface conversion: interface \x7b\x7d is cache.DeletedFinalStateUnknown, " ++
        "not *v1alpha1.EndpointSlice"⟩ := by
  simp [onEvent, h, handleEvent, updateEDS, throw, throwThe, MonadExceptOf.throw]

end EndpointSliceController

variable (c : Controller) (slice : EndpointSlice)

def expectedEndpoints (b : String → Endpoint → EndpointBuilder) : List IstioEndpoint :=
  slice.endpoints.flatMap fun e ↦
    if e.conditions.ready = some false then [] else
    e.addresses.flatMap fun a ↦
      if (c.pods a).isNone && e.targetRef.any (·.kind == "Pod") then [] else
      slice.ports.map fun port ↦
        (b a e).buildIstioEndpoint a (port.port.getD 0) (port.name.getD "")

variable {c slice} {b : String → Endpoint → EndpointBuilder}

theorem addressEndpoints_eq (hb : ∀ a e, newEndpointBuilder (c.pods a) e = .ok (b a e))
    (e : Endpoint) (a : String) :
    addressEndpoints c slice e a = .ok
      (if (c.pods a).isNone && e.targetRef.any (·.kind == "Pod") then [] else
        slice.ports.map fun port ↦
          (b a e).buildIstioEndpoint a (port.port.getD 0) (port.name.getD "")) := by
  dsimp only [addressEndpoints]
  split_ifs
  · rfl
  · rw [hb]
    rfl

theorem endpointEndpoints_eq (hb : ∀ a e, newEndpointBuilder (c.pods a) e = .ok (b a e))
    (e : Endpoint) :
    endpointEndpoints c slice e = .ok
      (if e.conditions.ready = some false then [] else
        e.addresses.flatMap fun a ↦
          if (c.pods a).isNone && e.targetRef.any (·.kind == "Pod") then [] else
          slice.ports.map fun port ↦
            (b a e).buildIstioEndpoint a (port.port.getD 0) (port.name.getD "")) := by
  unfold endpointEndpoints
  split_ifs
  · rfl
  · rw [mapM_eq_ok fun a _ ↦ addressEndpoints_eq hb e a]
    rfl

theorem buildEndpoints_eq (hb : ∀ a e, newEndpointBuilder (c.pods a) e = .ok (b a e)) :
    buildEndpoints c slice = .ok (expectedEndpoints c slice b) := by
  rw [buildEndpoints, mapM_eq_ok fun e _ ↦ endpointEndpoints_eq hb e]
  rfl

def unlabelledPod : Pod := ⟨"p", "ns", none⟩

def readySlice : EndpointSlice :=
  ⟨"svc-ep-1", "ns", (∅ : GoMap String String).insert labelServiceName "svc",
    [⟨["10.0.0.1"], ⟨none⟩, none, ∅⟩], [⟨some "http", some 80⟩]⟩

def svcNs : Service := ⟨"svc.ns.svc.cluster.local", ⟨"svc", "ns"⟩, [⟨"http", 80⟩]⟩

def unlabelledController : EndpointSliceController :=
  ⟨⟨"cluster.local", "Kubernetes",
    (∅ : GoMap String Service).insert "svc.ns.svc.cluster.local" svcNs,
    fun a ↦ if a = "10.0.0.1" then some unlabelledPod else none, none⟩,
    ∅, newEndpointSliceCache⟩

/-- `updateEDS` panics on a ready address whose pod has a nil label map, before it writes to
the cache or pushes. -/
theorem updateEDS_unlabelled_pod_panics :
    unlabelledController.updateEDS (.endpointSlice readySlice) .add =
      .error ⟨"assignment to entry in nil map"⟩ := rfl

/-- Both kinds of object `onEvent` accepts without an error log can end in a panic. -/
theorem onEvent_accepted_objects_panic :
    unlabelledController.onEvent
        (.deletedFinalStateUnknown "ns/svc-ep-1" (.endpointSlice readySlice)) .delete =
      .error ⟨"interface conversion: interface \x7b\x7d is cache.DeletedFinalStateUnknown, " ++
        "not *v1alpha1.EndpointSlice"⟩ ∧
    unlabelledController.onEvent (.endpointSlice readySlice) .add =
      .error ⟨"assignment to entry in nil map"⟩ := ⟨rfl, rfl⟩

end IstioControlPlane.Registry.UpdateEDS
