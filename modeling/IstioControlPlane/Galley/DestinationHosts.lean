import IstioControlPlane.Go

namespace IstioControlPlane.Galley.DestinationHosts

open Go

/-- What the analyzer uses of the `util` package, which is not part of this model. -/
structure Util where
  /-- `util.ExportToAllNamespaces`: the scope of an entry visible from every namespace. -/
  exportToAllNamespaces : String
  /-- `util.IsExportToAllNamespaces` of a `ServiceEntry`'s `exportTo`. -/
  isExportToAllNamespaces : List String → Bool
  /-- `util.ConvertHostToFQDN namespace host`. -/
  convertHostToFQDN : String → String → String

/-- `util.ScopedFqdn`, built only by `NewScopedFqdn` and read only through `GetScopeAndFqdn`, so
kept as the pair that gives back. -/
structure ScopedFqdn where
  scope : String
  fqdn : String
  deriving DecidableEq, Repr

def Util.newScopedFqdn (U : Util) (scope ns host : String) : ScopedFqdn :=
  ⟨scope, U.convertHostToFQDN ns host⟩

def ScopedFqdn.getScopeAndFqdn (s : ScopedFqdn) : String × String := (s.scope, s.fqdn)

def wildcard : String := "*"

structure Port where
  number : ℕ
  name : String
  protocol : String
  deriving DecidableEq, Repr

structure ServiceEntry where
  hosts : List String
  ports : List Port
  exportTo : List String
  deriving DecidableEq, Repr

structure ServicePort where
  name : String
  protocol : String
  port : ℕ
  deriving DecidableEq, Repr

structure ServiceSpec where
  ports : List ServicePort
  deriving DecidableEq, Repr

structure Destination where
  host : String
  port : Option ℕ
  deriving DecidableEq, Repr

structure VirtualService where
  destinations : List Destination
  deriving DecidableEq, Repr

structure Instance (α : Type) where
  ns : String
  name : String
  message : α
  deriving DecidableEq, Repr

inductive Message
  /-- `msg.NewReferencedResourceNotFound(r, reftype, refval)`. -/
  | referencedResourceNotFound (reftype refval : String)
  /-- `msg.NewVirtualServiceDestinationPortSelectorRequired(r, host, portNumbers)`. -/
  | virtualServiceDestinationPortSelectorRequired (host : String) (portNumbers : List ℕ)
  deriving DecidableEq, Repr

section Analyzer

variable (U : Util)

def hostsNamespaceScope (r : Instance ServiceEntry) : String :=
  if U.isExportToAllNamespaces r.message.exportTo then U.exportToAllNamespaces else r.ns

def addServiceEntry (result : GoMap ScopedFqdn ServiceEntry) (r : Instance ServiceEntry) :
    GoMap ScopedFqdn ServiceEntry :=
  r.message.hosts.foldl
    (fun result h ↦ result.insert (U.newScopedFqdn (hostsNamespaceScope U r) r.ns h) r.message)
    result

def addService (result : GoMap ScopedFqdn ServiceEntry) (r : Instance ServiceSpec) :
    GoMap ScopedFqdn ServiceEntry :=
  let hostsNamespaceScope := r.ns
  let ports := r.message.ports.map fun p ↦ (⟨p.port, p.name, p.protocol⟩ : Port)
  let host := U.convertHostToFQDN r.ns r.name
  result.insert (U.newScopedFqdn hostsNamespaceScope r.ns r.name) ⟨[host], ports, []⟩

/-- `initServiceEntryHostMap`, with the two `ForEach` loops in the order given; a later write
to a key replaces an earlier one. -/
def initServiceEntryHostMap (serviceEntries : List (Instance ServiceEntry))
    (services : List (Instance ServiceSpec)) : GoMap ScopedFqdn ServiceEntry :=
  services.foldl (addService U) (serviceEntries.foldl (addServiceEntry U) ∅)

/-- The test of the wildcard loop on one key: a wildcard entry visible from `sourceNs` whose
host, without its `*`, ends `host`. -/
def wildcardMatches (sourceNs host : String) (key : ScopedFqdn) : Bool :=
  let (scope, seHost) := key.getScopeAndFqdn
  hasPrefix seHost wildcard &&
    (scope == U.exportToAllNamespaces || scope == sourceNs) &&
    hasSuffix (trimPrefix host wildcard) (trimPrefix seHost wildcard)

/-- `getDestinationHost` with its `range` over the host map visiting `order`. -/
def getDestinationHostIn (sourceNs host : String)
    (serviceEntryHosts : GoMap ScopedFqdn ServiceEntry)
    (order : List (Σ _ : ScopedFqdn, ServiceEntry)) : Option ServiceEntry :=
  match serviceEntryHosts.lookup (U.newScopedFqdn sourceNs sourceNs host) with
  | some s => some s
  | none =>
    match serviceEntryHosts.lookup (U.newScopedFqdn U.exportToAllNamespaces sourceNs host) with
    | some s => some s
    | none => (order.find? fun x ↦ wildcardMatches U sourceNs host x.1).map (·.2)

def getDestinationHost (sourceNs host : String)
    (serviceEntryHosts : GoMap ScopedFqdn ServiceEntry) : Option ServiceEntry :=
  getDestinationHostIn U sourceNs host serviceEntryHosts serviceEntryHosts.entries

/-- The entries a call of `getDestinationHost` can return, over every order of its `range`. -/
def DestinationHostResult (sourceNs host : String)
    (serviceEntryHosts : GoMap ScopedFqdn ServiceEntry) (s : Option ServiceEntry) : Prop :=
  ∃ order, order.Perm serviceEntryHosts.entries ∧
    s = getDestinationHostIn U sourceNs host serviceEntryHosts order

def checkServiceEntryPorts (d : Destination) (s : ServiceEntry) : List Message :=
  match d.port with
  | none =>
    if s.ports.length > 1 then
      [.virtualServiceDestinationPortSelectorRequired d.host (s.ports.map (·.number))]
    else []
  | some number =>
    if s.ports.any (fun p ↦ number == p.number) then []
    else [.referencedResourceNotFound "host:port" (d.host ++ ":" ++ toString number)]

def destinationMessages (d : Destination) : Option ServiceEntry → List Message
  | none => [.referencedResourceNotFound "host" d.host]
  | some s => checkServiceEntryPorts d s

def analyzeVirtualService (r : Instance VirtualService)
    (serviceEntryHosts : GoMap ScopedFqdn ServiceEntry) : List Message :=
  r.message.destinations.flatMap fun d ↦
    destinationMessages d (getDestinationHost U r.ns d.host serviceEntryHosts)

def analyze (serviceEntries : List (Instance ServiceEntry))
    (services : List (Instance ServiceSpec)) (virtualServices : List (Instance VirtualService)) :
    List (Instance VirtualService × Message) :=
  let serviceEntryHosts := initServiceEntryHostMap U serviceEntries services
  virtualServices.flatMap fun r ↦ (analyzeVirtualService U r serviceEntryHosts).map (r, ·)

end Analyzer

section Keys

variable (U : Util)

theorem mem_foldl_addServiceEntry (k : ScopedFqdn) :
    ∀ (rs : List (Instance ServiceEntry)) (m : GoMap ScopedFqdn ServiceEntry),
      k ∈ rs.foldl (addServiceEntry U) m ↔
        k ∈ m ∨ ∃ r ∈ rs, ∃ h ∈ r.message.hosts,
          U.newScopedFqdn (hostsNamespaceScope U r) r.ns h = k
  | [], m => by simp
  | r :: rs, m => by
    rw [List.foldl_cons, mem_foldl_addServiceEntry k rs, addServiceEntry, GoMap.mem_foldl_insert]
    simp only [List.mem_cons, or_and_right, exists_or, exists_eq_left, or_assoc]

theorem mem_foldl_addService (k : ScopedFqdn) :
    ∀ (rs : List (Instance ServiceSpec)) (m : GoMap ScopedFqdn ServiceEntry),
      k ∈ rs.foldl (addService U) m ↔ k ∈ m ∨ ∃ r ∈ rs, U.newScopedFqdn r.ns r.ns r.name = k
  | [], m => by simp
  | r :: rs, m => by
    rw [List.foldl_cons, mem_foldl_addService k rs, addService, AList.mem_insert]
    simp only [List.mem_cons, or_and_right, exists_or, exists_eq_left,
      @eq_comm _ (U.newScopedFqdn r.ns r.ns r.name) k, or_assoc, or_left_comm]

theorem mem_initServiceEntryHostMap (serviceEntries : List (Instance ServiceEntry))
    (services : List (Instance ServiceSpec)) (k : ScopedFqdn) :
    k ∈ initServiceEntryHostMap U serviceEntries services ↔
      (∃ r ∈ serviceEntries, ∃ h ∈ r.message.hosts,
        U.newScopedFqdn (hostsNamespaceScope U r) r.ns h = k) ∨
        ∃ r ∈ services, U.newScopedFqdn r.ns r.ns r.name = k := by
  rw [initServiceEntryHostMap, mem_foldl_addService, mem_foldl_addServiceEntry]
  simp

theorem getDestinationHostIn_isSome {sourceNs host : String}
    {m : GoMap ScopedFqdn ServiceEntry} (order : List (Σ _ : ScopedFqdn, ServiceEntry))
    (h : U.newScopedFqdn sourceNs sourceNs host ∈ m ∨
      U.newScopedFqdn U.exportToAllNamespaces sourceNs host ∈ m) :
    (getDestinationHostIn U sourceNs host m order).isSome := by
  rw [← AList.lookup_isSome, ← AList.lookup_isSome] at h
  unfold getDestinationHostIn
  cases h1 : m.lookup (U.newScopedFqdn sourceNs sourceNs host) <;>
    cases h2 : m.lookup (U.newScopedFqdn U.exportToAllNamespaces sourceNs host) <;> simp_all

theorem serviceEntry_host_resolved {serviceEntries : List (Instance ServiceEntry)}
    {services : List (Instance ServiceSpec)} {r : Instance ServiceEntry} (hr : r ∈ serviceEntries)
    {h : String} (hh : h ∈ r.message.hosts) {s : Option ServiceEntry}
    (hs : DestinationHostResult U r.ns h (initServiceEntryHostMap U serviceEntries services) s) :
    s.isSome := by
  obtain ⟨order, -, rfl⟩ := hs
  refine getDestinationHostIn_isSome U order ?_
  have hk := (mem_initServiceEntryHostMap U serviceEntries services _).mpr
    (.inl ⟨r, hr, h, hh, rfl⟩)
  unfold hostsNamespaceScope at hk
  split_ifs at hk
  · exact .inr hk
  · exact .inl hk

theorem service_short_name_resolved {serviceEntries : List (Instance ServiceEntry)}
    {services : List (Instance ServiceSpec)} {r : Instance ServiceSpec} (hr : r ∈ services)
    {s : Option ServiceEntry}
    (hs : DestinationHostResult U r.ns r.name (initServiceEntryHostMap U serviceEntries services)
      s) :
    s.isSome := by
  obtain ⟨order, -, rfl⟩ := hs
  exact getDestinationHostIn_isSome U order
    (.inl ((mem_initServiceEntryHostMap U serviceEntries services _).mpr (.inr ⟨r, hr, rfl⟩)))

theorem serviceKey_not_probed (r : Instance ServiceSpec) (sourceNs host : String)
    (hs : sourceNs ≠ r.ns) (ha : U.exportToAllNamespaces ≠ r.ns) :
    U.newScopedFqdn r.ns r.ns r.name ≠ U.newScopedFqdn sourceNs sourceNs host ∧
      U.newScopedFqdn r.ns r.ns r.name ≠ U.newScopedFqdn U.exportToAllNamespaces sourceNs host ∧
      wildcardMatches U sourceNs host (U.newScopedFqdn r.ns r.ns r.name) = false := by
  simp [Util.newScopedFqdn, wildcardMatches, ScopedFqdn.getScopeAndFqdn, hs.symm, ha.symm]

theorem getDestinationHostIn_service_elsewhere (r : Instance ServiceSpec) (sourceNs host : String)
    (hs : sourceNs ≠ r.ns) (ha : U.exportToAllNamespaces ≠ r.ns)
    (order : List (Σ _ : ScopedFqdn, ServiceEntry))
    (hp : order.Perm (initServiceEntryHostMap U [] [r]).entries) :
    getDestinationHostIn U sourceNs host (initServiceEntryHostMap U [] [r]) order = none := by
  obtain ⟨h1, h2, h3⟩ := serviceKey_not_probed U r sourceNs host hs ha
  simp only [initServiceEntryHostMap, addService, List.foldl_cons, List.foldl_nil] at hp ⊢
  rw [AList.insert_entries_of_neg (AList.not_mem_empty _), AList.empty_entries,
    List.perm_singleton] at hp
  subst hp
  simp only [getDestinationHostIn, AList.lookup_insert_ne h1.symm, AList.lookup_insert_ne h2.symm,
    AList.lookup_empty, List.find?_cons, h3, List.find?_nil, Option.map_none']

def serviceEntryOfService (r : Instance ServiceSpec) : ServiceEntry :=
  ⟨[U.convertHostToFQDN r.ns r.name], r.message.ports.map fun p ↦ ⟨p.port, p.name, p.protocol⟩,
    []⟩

theorem lookup_addService (m : GoMap ScopedFqdn ServiceEntry) (r : Instance ServiceSpec)
    (k : ScopedFqdn) :
    (addService U m r).lookup k = if decide (U.newScopedFqdn r.ns r.ns r.name = k) then
      some (serviceEntryOfService U r) else m.lookup k := by
  simp only [decide_eq_true_eq]
  exact GoMap.lookup_insert_ite _ _ _ _

theorem lookup_addServiceEntry (m : GoMap ScopedFqdn ServiceEntry) (r : Instance ServiceEntry)
    (k : ScopedFqdn) :
    (addServiceEntry U m r).lookup k =
      if r.message.hosts.any (fun h ↦ U.newScopedFqdn (hostsNamespaceScope U r) r.ns h = k) then
        some r.message else m.lookup k := by
  have step (m : GoMap ScopedFqdn ServiceEntry) (h : String) :
      (m.insert (U.newScopedFqdn (hostsNamespaceScope U r) r.ns h) r.message).lookup k =
        if decide (U.newScopedFqdn (hostsNamespaceScope U r) r.ns h = k) then some r.message
        else m.lookup k := by
    simp only [decide_eq_true_eq]
    exact GoMap.lookup_insert_ite m _ k r.message
  rw [addServiceEntry, GoMap.lookup_foldl step, find?_map_const, List.any_reverse]
  split_ifs <;> rfl

/-- The host map holds under a key the entry of the last `Service` filed there, else of the
last `ServiceEntry` with a host filed there. -/
theorem lookup_initServiceEntryHostMap (serviceEntries : List (Instance ServiceEntry))
    (services : List (Instance ServiceSpec)) (k : ScopedFqdn) :
    (initServiceEntryHostMap U serviceEntries services).lookup k =
      ((services.reverse.find? fun r ↦ U.newScopedFqdn r.ns r.ns r.name = k).map
          (serviceEntryOfService U)).or
        ((serviceEntries.reverse.find? fun r ↦
          r.message.hosts.any fun h ↦ U.newScopedFqdn (hostsNamespaceScope U r) r.ns h = k).map
            (·.message)) := by
  rw [initServiceEntryHostMap, GoMap.lookup_foldl (lookup_addService U · · k),
    GoMap.lookup_foldl (lookup_addServiceEntry U · · k), AList.lookup_empty, Option.or_none]

end Keys

def reviewsService : Instance ServiceSpec := ⟨"default", "reviews", ⟨[⟨"http", "TCP", 9080⟩]⟩⟩

def bookinfoReviews : Instance VirtualService :=
  ⟨"bookinfo", "reviews", ⟨[⟨"reviews.default.svc.cluster.local", none⟩]⟩⟩

/-- A virtual service in `bookinfo` routing to `reviews.default`'s FQDN gets "not found", for
every `util` whose all-namespaces scope is not `default`. -/
theorem service_fqdn_unresolved_across_namespaces (U : Util)
    (hU : U.exportToAllNamespaces ≠ "default") :
    (∀ s, DestinationHostResult U "bookinfo" "reviews.default.svc.cluster.local"
        (initServiceEntryHostMap U [] [reviewsService]) s → s = none) ∧
      analyze U [] [reviewsService] [bookinfoReviews] =
        [(bookinfoReviews, .referencedResourceNotFound "host" "reviews.default.svc.cluster.local")] := by
  have unresolved := getDestinationHostIn_service_elsewhere U reviewsService "bookinfo"
    "reviews.default.svc.cluster.local" (by decide) hU
  refine ⟨fun s ⟨order, hp, hs⟩ ↦ hs ▸ unresolved order hp, ?_⟩
  simp [analyze, analyzeVirtualService, getDestinationHost, bookinfoReviews,
    unresolved _ (.refl _), destinationMessages]

/-- A `util` package to run the analyzer on: `*` as the all-namespaces scope, and a short host
qualified as `<host>.<namespace>.svc.cluster.local`. -/
def sampleUtil : Util where
  exportToAllNamespaces := "*"
  isExportToAllNamespaces exportTo := exportTo.isEmpty || exportTo.contains "*"
  convertHostToFQDN ns host :=
    if hasPrefix host "*" || host.toList.contains '.' then host
    else host ++ "." ++ ns ++ ".svc.cluster.local"

theorem service_fqdn_unresolved_with_sample_util :
    sampleUtil.exportToAllNamespaces ≠ "default" ∧
      (∀ s, DestinationHostResult sampleUtil "bookinfo" "reviews.default.svc.cluster.local"
          (initServiceEntryHostMap sampleUtil [] [reviewsService]) s → s = none) ∧
        analyze sampleUtil [] [reviewsService] [bookinfoReviews] =
          [(bookinfoReviews,
            .referencedResourceNotFound "host" "reviews.default.svc.cluster.local")] :=
  ⟨by decide, service_fqdn_unresolved_across_namespaces sampleUtil (by decide)⟩

def exampleWildcard : Instance ServiceEntry :=
  ⟨"default", "example", ⟨["*.example.com"], [⟨80, "http", "HTTP"⟩], []⟩⟩

def comWildcard : Instance ServiceEntry :=
  ⟨"default", "com", ⟨["*.com"], [⟨443, "https", "HTTPS"⟩], []⟩⟩

def wildcardHosts : GoMap ScopedFqdn ServiceEntry :=
  initServiceEntryHostMap sampleUtil [exampleWildcard, comWildcard] []

/-- `getDestinationHost` never returns an entry filed only in another namespace's own scope. -/
theorem destinationHostResult_visible (U : Util) {sourceNs host : String}
    {m : GoMap ScopedFqdn ServiceEntry} {e : ServiceEntry}
    (h : DestinationHostResult U sourceNs host m (some e)) :
    ∃ k, ⟨k, e⟩ ∈ m.entries ∧ (k.scope = sourceNs ∨ k.scope = U.exportToAllNamespaces) ∧
      (k.fqdn = U.convertHostToFQDN sourceNs host ∨
        hasPrefix k.fqdn wildcard ∧
          hasSuffix (trimPrefix host wildcard) (trimPrefix k.fqdn wildcard)) := by
  obtain ⟨order, hp, hs⟩ := h
  unfold getDestinationHostIn at hs
  split at hs
  next hl =>
    cases hs
    exact ⟨U.newScopedFqdn sourceNs sourceNs host, AList.mem_lookup_iff.mp hl, .inl rfl, .inl rfl⟩
  split at hs
  next hl =>
    cases hs
    exact ⟨U.newScopedFqdn U.exportToAllNamespaces sourceNs host, AList.mem_lookup_iff.mp hl,
      .inr rfl, .inl rfl⟩
  obtain ⟨x, hx, rfl⟩ := Option.map_eq_some'.mp hs.symm
  have hmatch := List.find?_some hx
  simp only [wildcardMatches, ScopedFqdn.getScopeAndFqdn, Bool.and_eq_true, Bool.or_eq_true,
    beq_iff_eq] at hmatch
  exact ⟨x.1, hp.subset (List.mem_of_find?_eq_some hx), hmatch.1.2.symm, .inr ⟨hmatch.1.1, hmatch.2⟩⟩

theorem wildcard_result_visible :
    DestinationHostResult sampleUtil "default" "reviews.example.com" wildcardHosts
        (some comWildcard.message) ∧
      ∃ k, ⟨k, comWildcard.message⟩ ∈ wildcardHosts.entries ∧
        (k.scope = "default" ∨ k.scope = sampleUtil.exportToAllNamespaces) ∧
        (k.fqdn = sampleUtil.convertHostToFQDN "default" "reviews.example.com" ∨
          hasPrefix k.fqdn wildcard ∧
            hasSuffix (trimPrefix "reviews.example.com" wildcard) (trimPrefix k.fqdn wildcard)) :=
  have h : DestinationHostResult sampleUtil "default" "reviews.example.com" wildcardHosts
      (some comWildcard.message) := ⟨wildcardHosts.entries, .refl _, by decide⟩
  ⟨h, destinationHostResult_visible sampleUtil h⟩

end IstioControlPlane.Galley.DestinationHosts
