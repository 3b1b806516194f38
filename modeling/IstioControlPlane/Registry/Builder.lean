import IstioControlPlane.Registry.Types

namespace IstioControlPlane.Registry.Builder

open Go Types

def getLocalityFromTopology (topology : GoMap String String) : String :=
  let locality := topology.get nodeRegionLabelGA
  let locality :=
    if nodeZoneLabelGA ∈ topology then locality ++ "/" ++ topology.get nodeZoneLabelGA
    else locality
  if istioSubzoneLabel ∈ topology then locality ++ "/" ++ topology.get istioSubzoneLabel
  else locality

/-- The `/`-separated fields of a locality, as `ConvertLocality` reads them back. -/
def localityFields (locality : String) : List String :=
  (locality.toList.splitOn '/').map String.mk

def presentTopologyValues (topology : GoMap String String) : List String :=
  topology.get nodeRegionLabelGA ::
    ((if nodeZoneLabelGA ∈ topology then [topology.get nodeZoneLabelGA] else []) ++
      if istioSubzoneLabel ∈ topology then [topology.get istioSubzoneLabel] else [])

theorem getLocalityFromTopology_toList (topology : GoMap String String) :
    (getLocalityFromTopology topology).toList =
      ['/'].intercalate ((presentTopologyValues topology).map String.toList) := by
  simp only [getLocalityFromTopology, presentTopologyValues]
  split_ifs <;> simp [List.intercalate, String.toList]

theorem mem_presentTopologyValues {topology : GoMap String String} {v : String}
    (hv : v ∈ presentTopologyValues topology) : ∃ k, topology.get k = v := by
  simp only [presentTopologyValues] at hv
  split_ifs at hv <;> simp only [List.mem_cons, List.mem_append, List.mem_singleton,
    List.not_mem_nil, or_false, List.nil_append, List.append_nil] at hv <;>
    rcases hv with rfl | rfl | rfl <;> exact ⟨_, rfl⟩

/-- An absent zone leaves no empty field in the derived locality, so a subzone moves up to
the zone's place. -/
theorem localityFields_getLocalityFromTopology (topology : GoMap String String)
    (h : ∀ x ∈ topology.entries, '/' ∉ x.2.toList) :
    localityFields (getLocalityFromTopology topology) = presentTopologyValues topology := by
  rw [localityFields, getLocalityFromTopology_toList, List.splitOn_intercalate, List.map_map]
  · exact List.map_id _
  · simp only [List.mem_map]
    rintro _ ⟨v, hv, rfl⟩
    obtain ⟨k, rfl⟩ := mem_presentTopologyValues hv
    exact GoMap.get_of_forall_mem (p := fun v : String ↦ '/' ∉ v.toList) (List.not_mem_nil _) h k
  · simp [presentTopologyValues]

def zonelessTopology : GoMap String String :=
  ((∅ : GoMap String String).insert nodeRegionLabelGA "us-east1").insert istioSubzoneLabel "rack1"

theorem subzone_read_as_zone :
    (localityFields (getLocalityFromTopology zonelessTopology)).getD 1 "" ≠
      zonelessTopology.get nodeZoneLabelGA := by
  decide

theorem zoneless_locality_fields :
    (∀ x ∈ zonelessTopology.entries, '/' ∉ x.2.toList) ∧
      localityFields (getLocalityFromTopology zonelessTopology) =
        presentTopologyValues zonelessTopology :=
  ⟨by decide, localityFields_getLocalityFromTopology zonelessTopology (by decide)⟩

/-- `esc.newEndpointBuilder`: a locality derived from the topology is written into a deep copy
of the pod's labels; the copy of a nil label map is nil, and the write panics. -/
def newEndpointBuilder (pod : Option Pod) (endpoint : Endpoint) : Except Panic EndpointBuilder :=
  match pod with
  | some p =>
    if (p.labels.getD ∅).get localityLabel = "" then
      match p.labels with
      | some labels =>
        pure (NewEndpointBuilder (some { p with
          labels :=
            some (labels.insert localityLabel (getLocalityFromTopology endpoint.topology)) }))
      | none => throw ⟨"assignment to entry in nil map"⟩
    else pure (NewEndpointBuilder (some p))
  | none => pure (NewEndpointBuilder none)

/-- A pod the registry can build from: none, or one whose label map is not nil. -/
def HasLabels (pod : Option Pod) : Prop := ∀ p ∈ pod, p.labels.isSome

instance (pod : Option Pod) : Decidable (HasLabels pod) :=
  match pod with
  | none => isTrue fun _ h ↦ nomatch h
  | some p => decidable_of_iff (p.labels.isSome = true)
      ⟨fun h _ hp ↦ Option.some_inj.mp hp ▸ h,
      fun h ↦ h p rfl⟩

theorem newEndpointBuilder_ok {pod : Option Pod} (h : HasLabels pod) (endpoint : Endpoint) :
    ∃ b, newEndpointBuilder pod endpoint = .ok b := by
  match pod, h with
  | none, _ => exact ⟨_, rfl⟩
  | some p, h =>
    obtain ⟨labels, hl⟩ := Option.isSome_iff_exists.mp (h p rfl)
    simp only [newEndpointBuilder, hl]
    split_ifs <;> exact ⟨_, rfl⟩

theorem newEndpointBuilder_panics (p : Pod) (endpoint : Endpoint) (h : p.labels = none) :
    newEndpointBuilder (some p) endpoint = .error ⟨"assignment to entry in nil map"⟩ := by
  simp [newEndpointBuilder, h, GoMap.get, throw, throwThe, MonadExceptOf.throw]

end IstioControlPlane.Registry.Builder
