import IstioControlPlane.Registry.UpdateEDS

namespace IstioControlPlane.Registry.Queries

open Go Types SliceCache Builder UpdateEDS

/-- Modelled from the spec (section 4.4): `labels.Instance.SubsetOf` is absent; the other set
holds every key of this one, with the same value. -/
def subsetOf (i that : GoMap String String) : Bool :=
  i.entries.all fun kv ↦ that.lookup kv.1 == some kv.2

/-- Modelled from the spec (section 4.4): `labels.Collection.HasSubsetOf` is absent; an empty
collection selects every workload, otherwise one of its sets must be contained. -/
def hasSubsetOf (labelsList : List (GoMap String String)) (that : GoMap String String) : Bool :=
  labelsList.isEmpty || labelsList.any (subsetOf · that)

def listSlices (esc : EndpointSliceController) (ns : String) : List EndpointSlice :=
  (esc.informer.entries.map (·.2)).filter (·.ns == ns)

def proxyServiceInstances (c : Controller) (ep : EndpointSlice) (proxy : Proxy) :
    Except Panic (List ServiceInstance) :=
  match c.servicesMap.lookup (sliceHostname c ep) with
  | none => pure []
  | some svc =>
    match proxy.ipAddresses with
    | [] => throw ⟨"runtime error: index out of range [0] with length 0"⟩
    | podIP :: _ =>
      let builder := NewEndpointBuilder (c.pods podIP)
      pure (ep.ports.flatMap fun port ↦
        match port.name, port.port with
        | some name, some portNum =>
          match svc.ports.get name with
          | none => []
          | some svcPort =>
            proxy.ipAddresses.flatMap fun ip ↦ ep.endpoints.flatMap fun e ↦
              e.addresses.flatMap fun a ↦
                if a = ip then
                  [⟨builder.buildIstioEndpoint ip portNum svcPort.name, svcPort, svc⟩]
                else []
        | _, _ => [])

def getProxyServiceInstances (esc : EndpointSliceController) (c : Controller) (proxy : Proxy) :
    Except Panic (List ServiceInstance) :=
  List.flatten <$> (listSlices esc proxy.metadataNamespace).mapM
    (proxyServiceInstances c · proxy)

def reported (i : ServiceInstance) : String × Int × Port × Service :=
  (i.endpoint.address, i.endpoint.endpointPort, i.servicePort, i.service)

/-- The instances a proxy should get from one slice: one per named, numbered slice port the
service knows, per proxy IP, per address of the slice equal to that IP. -/
def expectedProxyInstances (c : Controller) (ep : EndpointSlice) (proxy : Proxy) :
    List (String × Int × Port × Service) :=
  match c.servicesMap.lookup (sliceHostname c ep) with
  | none => []
  | some svc =>
    ep.ports.flatMap fun p ↦
      match p.name, p.port with
      | some name, some num =>
        match svc.ports.get name with
        | some svcPort =>
          proxy.ipAddresses.flatMap fun ip ↦
            ((ep.endpoints.flatMap (·.addresses)).filter (· = ip)).map fun _ ↦
              (ip, num, svcPort, svc)
        | none => []
      | _, _ => []

theorem flatMap_ite_singleton {α β : Type} (l : List α) (p : α → Prop) [DecidablePred p]
    (f : α → β) : l.flatMap (fun a ↦ if p a then [f a] else []) = (l.filter p).map f := by
  induction l with
  | nil => rfl
  | cons a l ih => by_cases h : p a <;> simp [List.filter_cons, h, ih]

theorem proxyServiceInstances_reported (c : Controller) (ep : EndpointSlice) (proxy : Proxy)
    (hip : proxy.ipAddresses ≠ []) :
    (·.map reported) <$> proxyServiceInstances c ep proxy =
      .ok (expectedProxyInstances c ep proxy) := by
  obtain ⟨podIP, ips, hips⟩ := List.exists_cons_of_ne_nil hip
  unfold proxyServiceInstances expectedProxyInstances
  cases c.servicesMap.lookup (sliceHostname c ep) with
  | none => rfl
  | some svc =>
    simp only [hips]
    show Except.ok _ = _
    congr 1
    simp only [List.map_flatMap]
    refine List.flatMap_congr fun port _ ↦ ?_
    rcases port with ⟨_ | name, _ | num⟩ <;> try rfl
    dsimp only
    cases svc.ports.get name with
    | none => rfl
    | some svcPort =>
      simp only [List.map_flatMap]
      refine List.flatMap_congr fun ip _ ↦ ?_
      simp only [List.filter_flatMap, List.map_flatMap, ← flatMap_ite_singleton,
        List.flatMap_assoc]
      simp [apply_ite, reported]

/-- For a proxy with an IP, each slice yields exactly its expected instances, and
`GetProxyServiceInstances` concatenates them over the informer's slices of its namespace. -/
theorem proxy_instances_resolved (esc : EndpointSliceController) (c : Controller)
    (proxy : Proxy) (hip : proxy.ipAddresses ≠ []) :
    (∀ ep, (·.map reported) <$> proxyServiceInstances c ep proxy =
      .ok (expectedProxyInstances c ep proxy)) ∧
    (·.map reported) <$> getProxyServiceInstances esc c proxy =
      .ok (((esc.informer.entries.map (·.2)).filter (·.ns = proxy.metadataNamespace)).flatMap
        (expectedProxyInstances c · proxy)) := by
  refine ⟨fun ep ↦ proxyServiceInstances_reported c ep proxy hip, ?_⟩
  rw [getProxyServiceInstances, mapM_flatten_hom _ _ rfl fun _ _ ↦ List.map_append _ _ _,
    mapM_eq_ok fun ep _ ↦ proxyServiceInstances_reported c ep proxy hip]
  rfl

def podlessController : EndpointSliceController :=
  ⟨{ unlabelledController.c with pods := fun _ ↦ none },
    (∅ : GoMap (String × String) EndpointSlice).insert ("ns", "svc-ep-1") readySlice,
    newEndpointSliceCache⟩

def sidecar : Proxy := ⟨"sidecar", ["10.0.0.1"], "ns"⟩

theorem proxy_instances_resolved_sidecar :
    sidecar.ipAddresses ≠ [] ∧
    (·.map reported) <$> getProxyServiceInstances podlessController podlessController.c sidecar =
      .ok (((podlessController.informer.entries.map (·.2)).filter
        (·.ns = sidecar.metadataNamespace)).flatMap
          (expectedProxyInstances podlessController.c · sidecar)) :=
  ⟨by decide, (proxy_instances_resolved _ _ _ (by decide)).2⟩

def listSlicesOf (esc : EndpointSliceController) (svc : Service) : List EndpointSlice :=
  (listSlices esc svc.attributes.ns).filter
    (·.labels.lookup labelServiceName == some svc.attributes.name)

def addressInstances (c : Controller) (svc : Service) (svcPort : Port)
    (labelsList : List (GoMap String String)) (slice : EndpointSlice) (e : Endpoint)
    (a : String) : Except Panic (List ServiceInstance) :=
  let pod := c.pods a
  if !hasSubsetOf labelsList ((pod.bind (·.labels)).getD ∅) then pure []
  else do
    let builder ← newEndpointBuilder pod e
    pure (slice.ports.filterMap fun port ↦
      if port.name.isNone || port.name == some svcPort.name then
        some ⟨builder.buildIstioEndpoint a (port.port.getD 0) svcPort.name, svcPort, svc⟩
      else none)

def slicePortInstances (c : Controller) (svc : Service) (svcPort : Port)
    (labelsList : List (GoMap String String)) (slice : EndpointSlice) :
    Except Panic (List ServiceInstance) :=
  List.flatten <$> slice.endpoints.mapM fun e ↦
    List.flatten <$> e.addresses.mapM (addressInstances c svc svcPort labelsList slice e)

def instancesByPort (esc : EndpointSliceController) (c : Controller) (svc : Service)
    (reqSvcPort : Int) (labelsList : List (GoMap String String)) :
    Except Panic (List ServiceInstance) :=
  let slices := listSlicesOf esc svc
  if slices.isEmpty then pure []
  else match svc.ports.getByPort reqSvcPort with
    | none => pure []
    | some svcPort => List.flatten <$> slices.mapM (slicePortInstances c svc svcPort labelsList)

def instancePair (i : ServiceInstance) : String × Int :=
  (i.endpoint.address, i.endpoint.endpointPort)

def edsPairs (name : String) (endpoints : List IstioEndpoint) : List (String × Int) :=
  endpoints.filterMap fun r ↦
    if r.servicePortName = name then some (r.address, r.endpointPort) else none

/-- No endpoint marked not ready, and a pod for every address of an endpoint that targets a Pod. -/
def ReadyWithPods (c : Controller) (slice : EndpointSlice) : Prop :=
  ∀ e ∈ slice.endpoints, e.conditions.ready ≠ some false ∧
    ∀ a ∈ e.addresses, e.targetRef.any (·.kind == "Pod") → (c.pods a).isSome

instance (c : Controller) (slice : EndpointSlice) : Decidable (ReadyWithPods c slice) :=
  inferInstanceAs (Decidable (∀ e ∈ slice.endpoints, e.conditions.ready ≠ some false ∧
    ∀ a ∈ e.addresses, e.targetRef.any (fun r : ObjectReference ↦ r.kind == "Pod") →
      (c.pods a).isSome))

theorem edsPairs_append (name : String) (xs ys : List IstioEndpoint) :
    edsPairs name (xs ++ ys) = edsPairs name xs ++ edsPairs name ys := List.filterMap_append ..

theorem ports_pairs (ports : List EndpointPort) (b : EndpointBuilder) (a : String)
    (svc : Service) (P : Port) (hnamed : P.name = "" ∨ ∀ port ∈ ports, port.name.isSome) :
    (ports.filterMap fun port ↦
        if port.name.isNone || port.name == some P.name then
          some (⟨b.buildIstioEndpoint a (port.port.getD 0) P.name, P, svc⟩ : ServiceInstance)
        else none).map instancePair =
      edsPairs P.name (ports.map fun port ↦
        b.buildIstioEndpoint a (port.port.getD 0) (port.name.getD "")) := by
  rw [edsPairs, List.map_filterMap, List.filterMap_map]
  refine List.filterMap_congr fun port hport ↦ ?_
  rcases port with ⟨_ | n, num⟩
  · rcases hnamed with h | h
    · simp [h, instancePair]
    · simpa using h _ hport
  · by_cases hn : n = P.name <;> simp [hn, instancePair]

theorem address_pairs (c : Controller) (svc : Service) (P : Port)
    (labelsList : List (GoMap String String)) (slice : EndpointSlice) (e : Endpoint)
    (a : String) (hlabels : ∀ l, hasSubsetOf labelsList l = true)
    (hpod : e.targetRef.any (·.kind == "Pod") → (c.pods a).isSome)
    (hnamed : P.name = "" ∨ ∀ port ∈ slice.ports, port.name.isSome) :
    (·.map instancePair) <$> addressInstances c svc P labelsList slice e a =
      edsPairs P.name <$> addressEndpoints c slice e a := by
  have hskip : ((c.pods a).isNone && e.targetRef.any (·.kind == "Pod")) = false := by
    cases h : e.targetRef.any (·.kind == "Pod")
    · simp
    · simpa [Option.isNone_iff_eq_none, ← Option.isSome_iff_ne_none] using hpod h
  simp only [addressInstances, addressEndpoints, hlabels, hskip]
  cases newEndpointBuilder (c.pods a) e with
  | error err => rfl
  | ok b => exact congrArg Except.ok (ports_pairs slice.ports b a svc P hnamed)

theorem slice_pairs (c : Controller) (svc : Service) (P : Port)
    (labelsList : List (GoMap String String)) (slice : EndpointSlice)
    (hlabels : ∀ l, hasSubsetOf labelsList l = true) (hready : ReadyWithPods c slice)
    (hnamed : P.name = "" ∨ ∀ port ∈ slice.ports, port.name.isSome) :
    (·.map instancePair) <$> slicePortInstances c svc P labelsList slice =
      edsPairs P.name <$> buildEndpoints c slice := by
  rw [slicePortInstances, buildEndpoints,
    mapM_flatten_hom _ _ rfl fun _ _ ↦ List.map_append _ _ _,
    mapM_flatten_hom _ _ rfl (edsPairs_append _)]
  refine congrArg _ (mapM_congr_mem fun e he ↦ ?_)
  obtain ⟨hr, hp⟩ := hready e he
  rw [endpointEndpoints, if_neg hr, mapM_flatten_hom _ _ rfl fun _ _ ↦ List.map_append _ _ _,
    mapM_flatten_hom _ _ rfl (edsPairs_append _)]
  exact congrArg _ (mapM_congr_mem fun a ha ↦ address_pairs c svc P labelsList slice e a hlabels
    (hp a ha) hnamed)

/-- On slices that are ready with pods and have named ports, `InstancesByPort` reports the
(address, port) pairs of the EDS records for the service port, in order. -/
theorem instancesByPort_pairs (esc : EndpointSliceController) (c : Controller) (svc : Service)
    (n : Int) (P : Port) (labelsList : List (GoMap String String))
    (hP : svc.ports.getByPort n = some P) (hlabels : ∀ l, hasSubsetOf labelsList l = true)
    (hslices : ∀ S ∈ listSlicesOf esc svc,
      ReadyWithPods c S ∧ (P.name = "" ∨ ∀ port ∈ S.ports, port.name.isSome)) :
    (·.map instancePair) <$> instancesByPort esc c svc n labelsList =
      List.flatten <$> (listSlicesOf esc svc).mapM fun S ↦
        edsPairs P.name <$> buildEndpoints c S := by
  simp only [instancesByPort, hP]
  split_ifs with h
  · rw [List.isEmpty_iff.mp h]
    rfl
  · rw [mapM_flatten_hom _ _ rfl fun _ _ ↦ List.map_append _ _ _]
    exact congrArg _ (mapM_congr_mem fun S hS ↦
      slice_pairs c svc P labelsList S hlabels (hslices S hS).1 (hslices S hS).2)

theorem instancesByPort_pairs_on_ready_slice :
    svcNs.ports.getByPort 80 = some ⟨"http", 80⟩ ∧ (∀ l, hasSubsetOf [] l = true) ∧
    (∀ S ∈ listSlicesOf podlessController svcNs, ReadyWithPods podlessController.c S ∧
      ("http" = "" ∨ ∀ port ∈ S.ports, port.name.isSome)) ∧
    (·.map instancePair) <$> instancesByPort podlessController podlessController.c svcNs 80 [] =
      List.flatten <$> (listSlicesOf podlessController svcNs).mapM fun S ↦
        edsPairs "http" <$> buildEndpoints podlessController.c S :=
  have hP : svcNs.ports.getByPort 80 = some ⟨"http", 80⟩ := rfl
  have hl : ∀ l, hasSubsetOf [] l = true := fun _ ↦ rfl
  have hs : ∀ S ∈ listSlicesOf podlessController svcNs, ReadyWithPods podlessController.c S ∧
      ("http" = "" ∨ ∀ port ∈ S.ports, port.name.isSome) := by
    decide
  ⟨hP, hl, hs, instancesByPort_pairs _ _ _ _ _ _ hP hl hs⟩

def unreadySlice : EndpointSlice :=
  { readySlice with endpoints := [⟨["10.0.0.1"], ⟨some false⟩, none, ∅⟩] }

def unreadyController : EndpointSliceController :=
  { podlessController with
    informer :=
      (∅ : GoMap (String × String) EndpointSlice).insert ("ns", "svc-ep-1") unreadySlice }

def unnamedPortSlice : EndpointSlice := { readySlice with ports := [⟨none, some 80⟩] }

def unnamedPortController : EndpointSliceController :=
  { podlessController with
    informer :=
      (∅ : GoMap (String × String) EndpointSlice).insert ("ns", "svc-ep-1") unnamedPortSlice }

/-- `InstancesByPort` reports an endpoint marked not ready, and matches an unnamed slice port
to the service port `http`, where `updateEDS`'s records differ. -/
theorem instancesByPort_differs_from_updateEDS :
    (·.map instancePair) <$> instancesByPort unreadyController unreadyController.c svcNs 80 [] ≠
      List.flatten <$> (listSlicesOf unreadyController svcNs).mapM (fun S ↦
        edsPairs "http" <$> buildEndpoints unreadyController.c S) ∧
    (·.map instancePair) <$>
        instancesByPort unnamedPortController unnamedPortController.c svcNs 80 [] =
      .ok [("10.0.0.1", 80)] ∧
    List.flatten <$> (listSlicesOf unnamedPortController svcNs).mapM (fun S ↦
        edsPairs "http" <$> buildEndpoints unnamedPortController.c S) = .ok [] :=
  ⟨fun h ↦ (by injection h with h; cases h), rfl, rfl⟩

end IstioControlPlane.Registry.Queries
