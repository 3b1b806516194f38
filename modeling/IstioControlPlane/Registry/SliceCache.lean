import IstioControlPlane.Registry.Types

namespace IstioControlPlane.Registry.SliceCache

open Go Types

/-- `endpointSliceCache`: per hostname, the endpoints each slice contributes. Every method
holds `mu` for its whole body, so each call is one atomic step. -/
structure EndpointSliceCache where
  endpointsByServiceAndSlice : GoMap String (GoMap String (List IstioEndpoint))

def newEndpointSliceCache : EndpointSliceCache := ⟨∅⟩

def appendAll (order : List (Σ _ : String, List IstioEndpoint)) : List IstioEndpoint :=
  order.foldl (fun endpoints eps ↦ endpoints ++ eps.2) []

namespace EndpointSliceCache

/-- `e.endpointsByServiceAndSlice[hostname]`; a missing inner map reads as Go's nil map. -/
def slices (e : EndpointSliceCache) (hostname : String) : GoMap String (List IstioEndpoint) :=
  (e.endpointsByServiceAndSlice.lookup hostname).getD ∅

def update (e : EndpointSliceCache) (hostname slice : String)
    (endpoints : List IstioEndpoint) : EndpointSliceCache :=
  -- `delete` on the nil map of an unseen hostname does nothing
  let m := if endpoints.isEmpty then
      match e.endpointsByServiceAndSlice.lookup hostname with
      | some inner => e.endpointsByServiceAndSlice.insert hostname (inner.erase slice)
      | none => e.endpointsByServiceAndSlice
    else e.endpointsByServiceAndSlice
  let m := if hostname ∈ m then m else m.insert hostname ∅
  ⟨m.insert hostname (((m.lookup hostname).getD ∅).insert slice endpoints)⟩

def get (e : EndpointSliceCache) (hostname : String) : List IstioEndpoint :=
  appendAll (e.slices hostname).entries

/-- The lists a call of `Get(hostname)` can return, over every order of its `range`. -/
def GetResult (e : EndpointSliceCache) (hostname : String) (endpoints : List IstioEndpoint) :
    Prop :=
  ∃ order, order.Perm (e.slices hostname).entries ∧ endpoints = appendAll order

theorem appendAll_eq_flatMap (order : List (Σ _ : String, List IstioEndpoint)) :
    appendAll order = order.flatMap (·.2) := by
  suffices ∀ acc, order.foldl (fun endpoints eps ↦ endpoints ++ eps.2) acc =
      acc ++ order.flatMap (·.2) by simpa using this []
  induction order with
  | nil => simp
  | cons x order ih => simp [ih]

theorem flatMap_filter_nonempty {α β : Type} (l : List α) (f : α → List β) :
    (l.filter (fun a ↦ !(f a).isEmpty)).flatMap f = l.flatMap f := by
  induction l with
  | nil => rfl
  | cons a l ih => cases h : f a <;> simp [List.filter_cons, h, ih]

variable (e : EndpointSliceCache) (hostname slice : String) (endpoints : List IstioEndpoint)

theorem slices_update_self :
    (e.update hostname slice endpoints).slices hostname =
      (e.slices hostname).insert slice endpoints := by
  unfold update slices
  cases hl : e.endpointsByServiceAndSlice.lookup hostname <;> cases endpoints.isEmpty <;>
    simp [hl, ← AList.lookup_isSome, AList.lookup_insert, GoMap.insert_erase]

theorem slices_update_ne {h' : String} (h : h' ≠ hostname) :
    (e.update hostname slice endpoints).slices h' = e.slices h' := by
  unfold update slices
  cases hl : e.endpointsByServiceAndSlice.lookup hostname <;> cases endpoints.isEmpty <;>
    simp [hl, ← AList.lookup_isSome, AList.lookup_insert_ne h]

theorem update_nil_keeps_entry :
    ((e.update hostname slice []).slices hostname).lookup slice = some [] := by
  rw [slices_update_self, AList.lookup_insert]

section RangeOrder

variable (m : GoMap String (List IstioEndpoint))

theorem live_order_of_perm {order : List (Σ _ : String, List IstioEndpoint)}
    (hp : order.Perm m.entries) :
    ∃ live : List String, live.Nodup ∧
      (∀ s, s ∈ live ↔ ∃ l, m.lookup s = some l ∧ l ≠ []) ∧
      appendAll order = live.flatMap (fun s ↦ (m.lookup s).getD []) := by
  refine ⟨(order.map (·.1)).filter (fun s ↦ !((m.lookup s).getD []).isEmpty), ?_,
    fun s ↦ ?_, ?_⟩
  · exact ((hp.map _).nodup_iff.mpr m.keys_nodup).filter _
  · simp only [List.mem_filter, (hp.map _).mem_iff]
    change s ∈ m.keys ∧ _ ↔ _
    rw [← AList.mem_keys, ← AList.lookup_isSome]
    cases m.lookup s <;> simp [List.isEmpty_iff]
  · rw [flatMap_filter_nonempty, List.flatMap_map, appendAll_eq_flatMap]
    refine List.flatMap_congr fun x hx ↦ ?_
    have hl : m.lookup x.1 = some x.2 := AList.mem_lookup_iff.mpr (hp.subset hx)
    simp [hl]

theorem perm_of_live_order {order : List String} (hnd : order.Nodup)
    (hlive : ∀ s, s ∈ order ↔ ∃ l, m.lookup s = some l ∧ l ≠ []) :
    (order.map (fun s ↦ (⟨s, (m.lookup s).getD []⟩ : Σ _ : String, List IstioEndpoint)) ++
      m.entries.filter (·.2.isEmpty)).Perm
      m.entries := by
  have hne : ∀ s ∈ order, (m.lookup s).getD [] ≠ [] := fun s hs ↦ by
    obtain ⟨l, hl, hl0⟩ := (hlive s).mp hs
    simpa [hl] using hl0
  refine (List.perm_ext_iff_of_nodup ?_ m.nodupKeys.nodup).mpr fun x ↦ ?_
  · refine List.nodup_append.mpr ⟨hnd.map fun a b h ↦ congrArg Sigma.fst h,
      m.nodupKeys.nodup.filter _, ?_⟩
    rintro x hx hx'
    obtain ⟨s, hs, rfl⟩ := List.mem_map.mp hx
    exact hne s hs (List.isEmpty_iff.mp (List.mem_filter.mp hx').2)
  · simp only [List.mem_append, List.mem_map, List.mem_filter]
    constructor
    · rintro (⟨s, hs, rfl⟩ | ⟨hx, -⟩)
      · obtain ⟨l, hl, -⟩ := (hlive s).mp hs
        simpa [hl] using AList.mem_lookup_iff.mp hl
      · exact hx
    · intro hx
      have hl : m.lookup x.1 = some x.2 := AList.mem_lookup_iff.mpr hx
      by_cases h0 : x.2 = []
      · exact .inr ⟨hx, by simp [h0]⟩
      · exact .inl ⟨x.1, (hlive _).mpr ⟨x.2, hl, h0⟩, by simp [hl]⟩

end RangeOrder

theorem getResult_iff (v : List IstioEndpoint) :
    e.GetResult hostname v ↔
      ∃ order : List String, order.Nodup ∧
        (∀ s, s ∈ order ↔ ∃ l, (e.slices hostname).lookup s = some l ∧ l ≠ []) ∧
        v = order.flatMap (fun s ↦ ((e.slices hostname).lookup s).getD []) := by
  constructor
  · rintro ⟨order, hp, rfl⟩
    exact live_order_of_perm _ hp
  · rintro ⟨order, hnd, hlive, rfl⟩
    refine ⟨_, perm_of_live_order _ hnd hlive, ?_⟩
    have hempty : ((e.slices hostname).entries.filter (·.2.isEmpty)).flatMap (·.2) = [] :=
      List.flatMap_eq_nil_iff.mpr fun x hx ↦ List.isEmpty_iff.mp (List.mem_filter.mp hx).2
    rw [appendAll_eq_flatMap, List.flatMap_append, List.flatMap_map, hempty, List.append_nil]

theorem getResult_get : e.GetResult hostname (e.get hostname) :=
  ⟨_, List.Perm.refl _, rfl⟩

end EndpointSliceCache

/-- `Update(hostname, slice, [])` leaves an empty list stored under the slice: the `delete` is
undone by the assignment after it. -/
theorem update_empty_on_fresh_cache :
    ((newEndpointSliceCache.update "svc.ns" "svc-ep-1" []).slices "svc.ns").entries =
      [⟨"svc-ep-1", []⟩] := by
  decide

structure UpdateCall where
  hostname : String
  slice : String
  endpoints : List IstioEndpoint

def runUpdates (e : EndpointSliceCache) (calls : List UpdateCall) : EndpointSliceCache :=
  calls.foldl (fun e u ↦ e.update u.hostname u.slice u.endpoints) e

/-- What the calls last wrote under `(hostname, slice)`. -/
def latest (calls : List UpdateCall) (hostname slice : String) : Option (List IstioEndpoint) :=
  (calls.reverse.find? (fun u ↦ u.hostname == hostname && u.slice == slice)).map
    (·.endpoints)

@[simp] theorem runUpdates_append (e : EndpointSliceCache) (calls : List UpdateCall)
    (u : UpdateCall) :
    runUpdates e (calls ++ [u]) = (runUpdates e calls).update u.hostname u.slice u.endpoints := by
  simp [runUpdates]

theorem latest_append (calls : List UpdateCall) (u : UpdateCall) (hostname slice : String) :
    latest (calls ++ [u]) hostname slice =
      if u.hostname = hostname ∧ u.slice = slice then some u.endpoints
      else latest calls hostname slice := by
  by_cases hu : u.hostname = hostname ∧ u.slice = slice <;> simp [latest, List.find?_cons, hu]

theorem lookup_runUpdates (calls : List UpdateCall) (hostname slice : String) :
    ((runUpdates newEndpointSliceCache calls).slices hostname).lookup slice =
      latest calls hostname slice := by
  induction calls using List.reverseRecOn with
  | nil => rfl
  | append_singleton calls u ih =>
    rw [runUpdates_append, latest_append]
    by_cases hh : u.hostname = hostname
    · subst hh
      rw [EndpointSliceCache.slices_update_self]
      by_cases hs : u.slice = slice
      · subst hs
        simp [AList.lookup_insert]
      · simp [AList.lookup_insert_ne (Ne.symm hs), hs, ih]
    · rw [EndpointSliceCache.slices_update_ne _ _ _ _ (Ne.symm hh), ih]
      simp [hh]

/-- The inner map keeps an entry for every slice name ever written. -/
theorem mem_slices_runUpdates (calls : List UpdateCall) (hostname slice : String) :
    slice ∈ (runUpdates newEndpointSliceCache calls).slices hostname ↔
      ∃ u ∈ calls, u.hostname = hostname ∧ u.slice = slice := by
  rw [← AList.lookup_isSome, lookup_runUpdates, latest, Option.isSome_map', List.find?_isSome]
  simp

theorem getResult_runUpdates (calls : List UpdateCall) (hostname : String)
    (endpoints : List IstioEndpoint) :
    (runUpdates newEndpointSliceCache calls).GetResult hostname endpoints ↔
      ∃ order : List String, order.Nodup ∧
        (∀ s, s ∈ order ↔ ∃ l, latest calls hostname s = some l ∧ l ≠ []) ∧
        endpoints = order.flatMap (fun s ↦ (latest calls hostname s).getD []) := by
  simp only [EndpointSliceCache.getResult_iff, lookup_runUpdates]

theorem getResult_congr {calls calls' : List UpdateCall} {hostname : String}
    (h : ∀ s, latest calls hostname s = latest calls' hostname s) :
    (runUpdates newEndpointSliceCache calls).GetResult hostname =
      (runUpdates newEndpointSliceCache calls').GetResult hostname := by
  funext endpoints
  simp only [getResult_runUpdates, h]

theorem latest_repeat (calls : List UpdateCall) (u : UpdateCall) (hostname slice : String) :
    latest (calls ++ [u, u]) hostname slice = latest (calls ++ [u]) hostname slice := by
  rw [show calls ++ [u, u] = calls ++ [u] ++ [u] by simp, latest_append, latest_append]
  split_ifs <;> rfl

theorem latest_swap (pre post : List UpdateCall) (u₁ u₂ : UpdateCall)
    (h : (u₁.hostname, u₁.slice) ≠ (u₂.hostname, u₂.slice)) (hostname slice : String) :
    latest (pre ++ u₁ :: u₂ :: post) hostname slice =
      latest (pre ++ u₂ :: u₁ :: post) hostname slice := by
  simp only [latest, List.reverse_append, List.reverse_cons, List.append_assoc,
    List.singleton_append, List.cons_append, List.find?_append, List.find?_cons]
  have hp : ¬((u₁.hostname == hostname && u₁.slice == slice) = true ∧
      (u₂.hostname == hostname && u₂.slice == slice) = true) := by
    simp only [Bool.and_eq_true, beq_iff_eq]
    rintro ⟨⟨rfl, rfl⟩, h₂, h₂'⟩
    exact h (by rw [h₂, h₂'])
  cases h₁ : (u₁.hostname == hostname && u₁.slice == slice) <;>
    cases h₂ : (u₂.hostname == hostname && u₂.slice == slice) <;> simp_all

/-- The merge law of the slice cache: `Get` returns the last non-empty list of each slice, in
any order of the slices, so repeating a call or swapping two on different keys changes nothing. -/
theorem get_after_updates :
    (∀ calls hostname endpoints,
      (runUpdates newEndpointSliceCache calls).GetResult hostname endpoints ↔
        ∃ order : List String, order.Nodup ∧
          (∀ s, s ∈ order ↔ ∃ l, latest calls hostname s = some l ∧ l ≠ []) ∧
          endpoints = order.flatMap (fun s ↦ (latest calls hostname s).getD [])) ∧
    (∀ calls u hostname,
      (runUpdates newEndpointSliceCache (calls ++ [u, u])).GetResult hostname =
        (runUpdates newEndpointSliceCache (calls ++ [u])).GetResult hostname) ∧
    (∀ pre post (u₁ u₂ : UpdateCall) hostname,
      (u₁.hostname, u₁.slice) ≠ (u₂.hostname, u₂.slice) →
      (runUpdates newEndpointSliceCache (pre ++ u₁ :: u₂ :: post)).GetResult hostname =
        (runUpdates newEndpointSliceCache (pre ++ u₂ :: u₁ :: post)).GetResult hostname) :=
  ⟨getResult_runUpdates,
    fun calls u _ ↦ getResult_congr (latest_repeat calls u _),
    fun pre post u₁ u₂ _ h ↦ getResult_congr (latest_swap pre post u₁ u₂ h _)⟩

theorem get_after_updates_swap :
    (("svc.ns", "a") ≠ ("svc.ns", "b")) ∧
      (runUpdates newEndpointSliceCache
          [⟨"svc.ns", "a", [⟨∅, "", "", "10.0.0.1", 80, "http"⟩]⟩,
            ⟨"svc.ns", "b", [⟨∅, "", "", "10.0.0.2", 80, "http"⟩]⟩]).GetResult "svc.ns" =
        (runUpdates newEndpointSliceCache
          [⟨"svc.ns", "b", [⟨∅, "", "", "10.0.0.2", 80, "http"⟩]⟩,
            ⟨"svc.ns", "a", [⟨∅, "", "", "10.0.0.1", 80, "http"⟩]⟩]).GetResult "svc.ns" :=
  ⟨by decide, get_after_updates.2.2 [] []
    ⟨"svc.ns", "a", [⟨∅, "", "", "10.0.0.1", 80, "http"⟩]⟩
    ⟨"svc.ns", "b", [⟨∅, "", "", "10.0.0.2", 80, "http"⟩]⟩ "svc.ns" (by decide)⟩

end IstioControlPlane.Registry.SliceCache
