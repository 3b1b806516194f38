import IstioControlPlane.Registry.UpdateEDS

namespace IstioControlPlane.Registry.Events

open Go Types SliceCache Builder UpdateEDS

inductive Change
  | slice (event : Event) (slice : EndpointSlice)
  | serviceAdded (hostname : String) (svc : Service)
  | serviceRemoved (hostname : String)
  | podsChanged (pods : String → Option Pod)

structure Written where
  slice : EndpointSlice
  event : Event
  c : Controller
  call : UpdateCall

/-- The endpoint-slice controller and, as a ghost, the log of every `Update` its handler made. -/
structure World where
  esc : EndpointSliceController
  written : List Written

def init (c : Controller) : World := ⟨⟨c, ∅, newEndpointSliceCache⟩, []⟩

/-- The `Update` call `onEvent` makes for a slice event, if it makes one. -/
def writtenBy (esc : EndpointSliceController) (slice : EndpointSlice) (event : Event) :
    Option Written :=
  if esc.c.synced ∧ (esc.c.servicesMap.lookup (sliceHostname esc.c slice)).isSome then
    match (if event ≠ .delete then buildEndpoints esc.c slice else pure []) with
    | .ok endpoints =>
      some ⟨slice, event, esc.c, ⟨sliceHostname esc.c slice, slice.name, endpoints⟩⟩
    | .error _ => none
  else none

def informed (esc : EndpointSliceController) (event : Event) (slice : EndpointSlice) :
    EndpointSliceController :=
  { esc with informer := if event = .delete then esc.informer.erase (slice.ns, slice.name)
      else esc.informer.insert (slice.ns, slice.name) slice }

@[simp] theorem informed_c (esc : EndpointSliceController) (event : Event)
    (slice : EndpointSlice) : (informed esc event slice).c = esc.c := rfl

@[simp] theorem informed_endpointCache (esc : EndpointSliceController) (event : Event)
    (slice : EndpointSlice) : (informed esc event slice).endpointCache = esc.endpointCache := rfl

def handle (w : World) : Change → Except Panic World
  | .slice event slice =>
    (fun r ↦
        ⟨r.1, w.written ++ (writtenBy (informed w.esc event slice) slice event).toList⟩) <$>
      (informed w.esc event slice).onEvent (.endpointSlice slice) event
  | .serviceAdded hostname svc =>
    pure { w with esc.c.servicesMap := w.esc.c.servicesMap.insert hostname svc }
  | .serviceRemoved hostname =>
    pure { w with esc.c.servicesMap := w.esc.c.servicesMap.erase hostname }
  | .podsChanged pods => pure { w with esc.c.pods := pods }

def run (w : World) : List Change → Except Panic World
  | [] => pure w
  | ch :: chs => do run (← handle w ch) chs

def Written.Faithful (x : Written) : Prop :=
  x.call.hostname = sliceHostname x.c x.slice ∧ x.call.slice = x.slice.name ∧
    (x.event = .delete → x.call.endpoints = []) ∧
    (x.event ≠ .delete → buildEndpoints x.c x.slice = .ok x.call.endpoints)

variable {esc esc' : EndpointSliceController} {slice : EndpointSlice} {event : Event}

theorem writtenBy_faithful {x : Written} (h : writtenBy esc slice event = some x) :
    x.Faithful := by
  unfold writtenBy at h
  split_ifs at h with hc hev
  · cases hb : buildEndpoints esc.c slice with
    | error e => simp [hb] at h
    | ok endpoints =>
      simp only [hb, Option.some.injEq] at h
      subst h
      exact ⟨rfl, rfl, fun hd ↦ absurd hd hev, fun _ ↦ hb⟩
  · obtain rfl := not_not.mp hev
    simp only [pure, Except.pure, Option.some.injEq] at h
    subst h
    exact ⟨rfl, rfl, fun _ ↦ rfl, fun hd ↦ absurd rfl hd⟩

theorem onEvent_slice {push : Option EDSUpdate} {err : Option String}
    (h : esc.onEvent (.endpointSlice slice) event = .ok (esc', push, err)) :
    esc'.c = esc.c ∧ esc'.informer = esc.informer ∧
    esc'.endpointCache = ((writtenBy esc slice event).map fun x ↦
      esc.endpointCache.update x.call.hostname x.call.slice x.call.endpoints).getD
        esc.endpointCache := by
  unfold EndpointSliceController.onEvent at h
  unfold writtenBy
  cases hs : esc.c.checkReadyForEvents with
  | some e =>
    simp only [hs, pure, Except.pure, Except.ok.injEq, Prod.mk.injEq] at h
    obtain ⟨rfl, -⟩ := h
    simp [Controller.synced, hs]
  | none =>
    simp only [hs, handleEvent] at h
    obtain ⟨⟨esc'', push'⟩, h, hr⟩ := map_eq_ok.mp h
    cases hr
    cases hl : esc.c.servicesMap.lookup (sliceHostname esc.c slice) with
    | none => rw [EndpointSliceController.updateEDS_skip _ _ _ hl] at h; cases h; simp [hl]
    | some svc =>
      rw [EndpointSliceController.updateEDS_write _ _ _ hl] at h
      simp only [Controller.synced, hs, hl, Option.isNone_none, Option.isSome_some, and_self,
        if_true]
      revert h
      generalize (if event ≠ .delete then buildEndpoints esc.c slice else pure []) = r
      cases r with
      | error e => intro h; cases h
      | ok L => intro h; cases h; exact ⟨rfl, rfl, rfl⟩

/-- The cache is the log replayed on an empty one, and every logged `Update` is faithful to
its event. -/
structure Inv (w : World) : Prop where
  cache : w.esc.endpointCache = runUpdates newEndpointSliceCache (w.written.map (·.call))
  faithful : ∀ x ∈ w.written, x.Faithful

theorem inv_init (c : Controller) : Inv (init c) := ⟨rfl, fun _ h ↦ nomatch h⟩

theorem inv_handle {w w' : World} {ch : Change} (hi : Inv w) (h : handle w ch = .ok w') :
    Inv w' := by
  cases ch with
  | slice event slice =>
    obtain ⟨⟨esc', push, err⟩, hr, rfl⟩ := map_eq_ok.mp h
    obtain ⟨-, -, hcache⟩ := onEvent_slice hr
    constructor
    · rw [hcache]
      cases writtenBy (informed w.esc event slice) slice event with
      | none => simpa using hi.cache
      | some x => simp [hi.cache, runUpdates_append]
    · intro x hx
      rcases List.mem_append.mp hx with hx | hx
      · exact hi.faithful x hx
      · exact writtenBy_faithful (Option.mem_toList.mp hx)
  | serviceAdded | serviceRemoved | podsChanged => cases h; exact ⟨hi.cache, hi.faithful⟩

theorem inv_run {w w' : World} : ∀ {chs : List Change}, Inv w → run w chs = .ok w' → Inv w'
  | [], hi, h => by cases h; exact hi
  | ch :: chs, hi, h => by
    obtain ⟨w₁, hh, h⟩ := bind_eq_ok.mp h
    exact inv_run (inv_handle hi hh) h

/-- Every record `Get(hostname)` can return was built from the slice of the last event handled
for that hostname and slice name, an add or update; a delete arriving while the service is
missing, or after the slice's label moved, is not handled for the old hostname. -/
theorem get_records_from_last_handled_event (c : Controller) (changes : List Change)
    (w : World) (hrun : run (init c) changes = .ok w) (hostname : String)
    (endpoints : List IstioEndpoint) (hget : w.esc.endpointCache.GetResult hostname endpoints)
    (r : IstioEndpoint) (hr : r ∈ endpoints) :
    ∃ x ∈ w.written,
      w.written.reverse.find?
          (fun y ↦ y.call.hostname == hostname && y.call.slice == x.slice.name) = some x ∧
      x.event ≠ .delete ∧ sliceHostname x.c x.slice = hostname ∧
      buildEndpoints x.c x.slice = .ok x.call.endpoints ∧ r ∈ x.call.endpoints := by
  have hi := inv_run (inv_init c) hrun
  rw [hi.cache, getResult_runUpdates] at hget
  obtain ⟨order, -, hlive, rfl⟩ := hget
  obtain ⟨s, hs, hrs⟩ := List.mem_flatMap.mp hr
  obtain ⟨l, hl, hne⟩ := (hlive s).mp hs
  rw [hl] at hrs
  rw [latest, ← List.map_reverse, List.find?_map, Option.map_map] at hl
  obtain ⟨x, hx, rfl⟩ := Option.map_eq_some'.mp hl
  have hmem : x ∈ w.written := List.mem_reverse.mp (List.mem_of_find?_eq_some hx)
  have hpred := List.find?_some hx
  simp only [Function.comp, Bool.and_eq_true, beq_iff_eq] at hx hpred
  obtain ⟨hhost, hslice, hdel, hbuild⟩ := hi.faithful x hmem
  have hev : x.event ≠ .delete := fun hd ↦ hne (hdel hd)
  refine ⟨x, hmem, ?_, hev, hhost ▸ hpred.1, hbuild hev, hrs⟩
  rw [← hslice, hpred.2]
  exact hx

def syncedController : Controller :=
  { unlabelledController.c with pods := fun _ ↦ none, servicesMap := ∅ }

def svc2Ns : Service := ⟨"svc2.ns.svc.cluster.local", ⟨"svc2", "ns"⟩, [⟨"http", 80⟩]⟩

def relabelledSlice : EndpointSlice :=
  { readySlice with labels := (∅ : GoMap String String).insert labelServiceName "svc2" }

def labelMoveRun : List Change :=
  [.serviceAdded svcNs.hostname svcNs, .serviceAdded svc2Ns.hostname svc2Ns,
    .slice .add readySlice, .slice .update relabelledSlice]

/-- After the label moves, `svc`'s merged view keeps the record built from the add. -/
theorem get_records_after_label_move :
    ∃ w, run (init syncedController) labelMoveRun = .ok w ∧
      w.esc.informer.lookup ("ns", "svc-ep-1") = some relabelledSlice ∧
      ⟨∅, "", "", "10.0.0.1", 80, "http"⟩ ∈ w.esc.endpointCache.get svcNs.hostname ∧
      ∃ x ∈ w.written,
        w.written.reverse.find?
            (fun y ↦ y.call.hostname == svcNs.hostname && y.call.slice == x.slice.name) =
          some x ∧
        x.event ≠ .delete ∧ sliceHostname x.c x.slice = svcNs.hostname ∧
        buildEndpoints x.c x.slice = .ok x.call.endpoints ∧
        ⟨∅, "", "", "10.0.0.1", 80, "http"⟩ ∈ x.call.endpoints :=
  ⟨_, rfl, rfl, by decide, get_records_from_last_handled_event syncedController labelMoveRun _ rfl
    svcNs.hostname _ (EndpointSliceCache.getResult_get _ _) _ (by decide)⟩

def staleRun : List Change :=
  [.serviceAdded svcNs.hostname svcNs, .slice .add readySlice,
    .serviceRemoved svcNs.hostname, .slice .delete readySlice]

/-- The delete of a slice whose service has gone is dropped, and its record stays merged. -/
theorem deleted_slice_records_persist :
    ∃ w, run (init syncedController) staleRun = .ok w ∧ w.esc.informer.entries = [] ∧
      (w.esc.endpointCache.get svcNs.hostname).map (·.address) = ["10.0.0.1"] :=
  ⟨_, rfl, rfl, rfl⟩

end IstioControlPlane.Registry.Events
