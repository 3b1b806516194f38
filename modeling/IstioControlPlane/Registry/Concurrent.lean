import IstioControlPlane.Registry.SliceCache
import Mathlib.Logic.Relation
import Mathlib.Data.List.FinRange
import Mathlib.Data.Fin.VecNotation

namespace IstioControlPlane.Registry.Concurrent

open Go Types SliceCache

structure Run where
  slice : String
  endpoints : List IstioEndpoint

def Run.call (r : Run) (hostname : String) : UpdateCall := ⟨hostname, r.slice, r.endpoints⟩

/-- Where a run is among `updateEDS`'s last three statements; a run that has read holds the
view `Get` returned and, as a ghost, how many `Update`s had taken the lock before its read. -/
inductive Phase
  | start
  | updated
  | read (view : List IstioEndpoint) (seen : ℕ)
  | pushed
  deriving DecidableEq

/-- `n` runs of `updateEDS` for one hostname sharing the endpoint cache, and the downstream's
last view. The ghost fields record history and steer no step. -/
structure Sys (n : ℕ) where
  cache : EndpointSliceCache
  phases : Fin n → Phase
  downstream : Option (List IstioEndpoint)
  log : List (Fin n)
  pushedSeen : ℕ

def start {n : ℕ} (e : EndpointSliceCache) : Sys n := ⟨e, fun _ ↦ .start, none, [], 0⟩

variable (hostname : String) {n : ℕ} (runs : Fin n → Run)

/-- The lock-protected steps of the runs, in any interleaving: `Update`, `Get` (in any order of
the slices' blocks), then the push. -/
inductive Step : Sys n → Sys n → Prop
  | update {s : Sys n} (i : Fin n) (hp : s.phases i = .start) :
    Step s { s with
      cache := s.cache.update hostname (runs i).slice (runs i).endpoints
      phases := Function.update s.phases i .updated
      log := s.log ++ [i] }
  | get {s : Sys n} (i : Fin n) {view : List IstioEndpoint} (hp : s.phases i = .updated)
      (hv : s.cache.GetResult hostname view) :
    Step s { s with phases := Function.update s.phases i (.read view s.log.length) }
  | push {s : Sys n} (i : Fin n) {view : List IstioEndpoint} {seen : ℕ}
      (hp : s.phases i = .read view seen) :
    Step s { s with
      phases := Function.update s.phases i .pushed
      downstream := some view
      pushedSeen := seen }

def cacheAfter (e : EndpointSliceCache) (log : List (Fin n)) (k : ℕ) : EndpointSliceCache :=
  runUpdates e ((log.take k).map fun i ↦ (runs i).call hostname)

/-- The cache is the logged `Update`s replayed, and every view read or pushed is a `Get` of the
cache as it stood after the `Update`s its reader saw. -/
structure Inv (e : EndpointSliceCache) (s : Sys n) : Prop where
  cache : s.cache = runUpdates e (s.log.map fun i ↦ (runs i).call hostname)
  nodup : s.log.Nodup
  mem_log : ∀ i, i ∈ s.log ↔ s.phases i ≠ .start
  read : ∀ i view seen, s.phases i = .read view seen →
    seen ≤ s.log.length ∧ (cacheAfter hostname runs e s.log seen).GetResult hostname view
  pushed : ∀ view, s.downstream = some view →
    s.pushedSeen ≤ s.log.length ∧
      (cacheAfter hostname runs e s.log s.pushedSeen).GetResult hostname view
  delivered : ∀ i, s.phases i = .pushed → s.downstream.isSome

variable {hostname runs} {e : EndpointSliceCache}

theorem cacheAfter_append {log : List (Fin n)} {k : ℕ} (hk : k ≤ log.length) (i : Fin n) :
    cacheAfter hostname runs e (log ++ [i]) k = cacheAfter hostname runs e log k := by
  rw [cacheAfter, cacheAfter, List.take_append_of_le_length hk]

theorem cacheAfter_length (log : List (Fin n)) :
    cacheAfter hostname runs e log log.length =
      runUpdates e (log.map fun i ↦ (runs i).call hostname) := by
  rw [cacheAfter, List.take_length]

theorem phase_of_update {f : Fin n → Phase} {i j : Fin n} {p q : Phase}
    (h : Function.update f i p j = q) (hpq : p ≠ q) : f j = q := by
  by_cases hj : j = i
  · subst hj
    exact absurd (by simpa using h) hpq
  · rwa [Function.update_noteq hj] at h

theorem mem_log_update {s : Sys n} (hi : Inv hostname runs e s) {i : Fin n} {p : Phase}
    (hp : s.phases i ≠ .start) (hp' : p ≠ .start) (j : Fin n) :
    j ∈ s.log ↔ Function.update s.phases i p j ≠ .start := by
  by_cases hj : j = i
  · subst hj
    rw [Function.update_same]
    exact ⟨fun _ ↦ hp', fun _ ↦ (hi.mem_log j).mpr hp⟩
  · rw [Function.update_noteq hj, hi.mem_log]

theorem inv_start : Inv hostname runs e (start e) :=
  ⟨rfl, List.nodup_nil, fun _ ↦ by simp [start], fun _ _ _ h ↦ (nomatch h),
    fun _ h ↦ (nomatch h), fun _ h ↦ (nomatch h)⟩

variable {s : Sys n} {i : Fin n}

theorem inv_update (hi : Inv hostname runs e s) (hp : s.phases i = .start) :
    Inv hostname runs e { s with
      cache := s.cache.update hostname (runs i).slice (runs i).endpoints
      phases := Function.update s.phases i .updated
      log := s.log ++ [i] } := by
  have hi' : i ∉ s.log := fun h ↦ (hi.mem_log i).mp h hp
  refine ⟨?_, hi.nodup.append (List.nodup_singleton i) (by simpa using hi'), fun j ↦ ?_,
    fun j view seen h ↦ ?_, fun view h ↦ ?_,
    fun j h ↦ hi.delivered j (phase_of_update h nofun)⟩
  · rw [List.map_append, List.map_singleton, runUpdates_append, ← hi.cache]
    rfl
  · by_cases hj : j = i
    · subst hj
      simp
    · simp [Function.update_noteq hj, hi.mem_log j, hj]
  · obtain ⟨hk, hv⟩ := hi.read j view seen (phase_of_update h nofun)
    exact ⟨by simp; omega, by rwa [cacheAfter_append hk]⟩
  · obtain ⟨hk, hv⟩ := hi.pushed view h
    exact ⟨by simp; omega, by rwa [cacheAfter_append hk]⟩

theorem inv_get (hi : Inv hostname runs e s) (hp : s.phases i = .updated)
    {view : List IstioEndpoint} (hv : s.cache.GetResult hostname view) :
    Inv hostname runs e
      { s with phases := Function.update s.phases i (.read view s.log.length) } := by
  refine ⟨hi.cache, hi.nodup, mem_log_update hi (by simp [hp]) nofun, fun j view' seen h ↦ ?_,
    hi.pushed, fun j h ↦ hi.delivered j (phase_of_update h nofun)⟩
  by_cases hj : j = i
  · subst hj
    obtain ⟨rfl, rfl⟩ : view = view' ∧ s.log.length = seen := by simpa using h
    rw [cacheAfter_length, ← hi.cache]
    exact ⟨le_refl _, hv⟩
  · dsimp only at h
    rw [Function.update_noteq hj] at h
    exact hi.read j view' seen h

theorem inv_push (hi : Inv hostname runs e s) {view : List IstioEndpoint} {seen : ℕ}
    (hp : s.phases i = .read view seen) :
    Inv hostname runs e { s with
      phases := Function.update s.phases i .pushed
      downstream := some view
      pushedSeen := seen } :=
  ⟨hi.cache, hi.nodup, mem_log_update hi (by simp [hp]) nofun,
    fun j view' seen' h ↦ hi.read j view' seen' (phase_of_update h nofun),
    fun _ h ↦ Option.some_inj.mp h ▸ hi.read i view seen hp, fun _ _ ↦ rfl⟩

theorem inv_step {s' : Sys n} (hi : Inv hostname runs e s) (h : Step hostname runs s s') :
    Inv hostname runs e s' := by
  cases h with
  | update i hp => exact inv_update hi hp
  | get i hp hv => exact inv_get hi hp hv
  | push i hp => exact inv_push hi hp

theorem inv_reach (h : Relation.ReflTransGen (Step hostname runs) (start e) s) :
    Inv hostname runs e s := by
  induction h with
  | refl => exact inv_start
  | tail _ hst ih => exact inv_step ih hst

/-- Once every run has pushed, in any interleaving: no `Update` is lost, and the downstream's
last view is a `Get` of the cache as the last pusher saw it when it read. -/
theorem all_pushed_downstream_view (e : EndpointSliceCache) (s : Sys n)
    (hs : Relation.ReflTransGen (Step hostname runs) (start e) s)
    (hall : ∀ i, s.phases i = .pushed) :
    s.log.Perm (List.finRange n) ∧
    s.cache = runUpdates e (s.log.map fun i ↦ (runs i).call hostname) ∧
    (0 < n → ∃ view, s.downstream = some view ∧ s.pushedSeen ≤ n ∧
      (cacheAfter hostname runs e s.log s.pushedSeen).GetResult hostname view ∧
      (s.pushedSeen = n → s.cache.GetResult hostname view)) := by
  have hi := inv_reach hs
  have hperm : s.log.Perm (List.finRange n) :=
    (List.perm_ext_iff_of_nodup hi.nodup (List.nodup_finRange n)).mpr fun i ↦ by
      simp [hi.mem_log, hall]
  refine ⟨hperm, hi.cache, fun hn ↦ ?_⟩
  obtain ⟨view, hview⟩ := Option.isSome_iff_exists.mp (hi.delivered ⟨0, hn⟩ (hall _))
  have hlen : s.log.length = n := by simpa using hperm.length_eq
  obtain ⟨hk, hv⟩ := hi.pushed view hview
  refine ⟨view, hview, by omega, hv, fun hfresh ↦ ?_⟩
  rwa [hi.cache, ← cacheAfter_length, show s.log.length = s.pushedSeen by omega]

theorem length_of_getResult {e : EndpointSliceCache} {view : List IstioEndpoint}
    (hv : e.GetResult hostname view) : view.length = (e.get hostname).length := by
  obtain ⟨order, hp, rfl⟩ := hv
  rw [EndpointSliceCache.get, EndpointSliceCache.appendAll_eq_flatMap,
    EndpointSliceCache.appendAll_eq_flatMap]
  exact (hp.flatMap_right _).length_eq

def recordAt (address : String) : IstioEndpoint :=
  (NewEndpointBuilder none).buildIstioEndpoint address 80 "http"

def twoRuns : Fin 2 → Run :=
  ![⟨"svc-ep-a", [recordAt "10.0.0.1"]⟩, ⟨"svc-ep-b", [recordAt "10.0.0.2"]⟩]

theorem serial_runs_push_final_view :
    ∃ s : Sys 2, Relation.ReflTransGen (Step "svc.ns" twoRuns) (start newEndpointSliceCache) s ∧
      (∀ i, s.phases i = .pushed) ∧ s.pushedSeen = 2 ∧
      ∃ view, s.downstream = some view ∧ s.cache.GetResult "svc.ns" view := by
  have hs : Relation.ReflTransGen (Step "svc.ns" twoRuns) (start newEndpointSliceCache) _ :=
    .tail (.tail (.tail (.tail (.tail (.single (.update 0 rfl))
      (.get 0 rfl (EndpointSliceCache.getResult_get _ _))) (.push 0 rfl)) (.update 1 rfl))
      (.get 1 rfl (EndpointSliceCache.getResult_get _ _))) (.push 1 rfl)
  refine ⟨_, hs, by decide, rfl, ?_⟩
  obtain ⟨-, -, hview⟩ := all_pushed_downstream_view _ _ hs (by decide)
  obtain ⟨view, hview, -, -, hfresh⟩ := hview (by decide)
  exact ⟨view, hview, hfresh rfl⟩

/-- Run `b` updates and reads after run `a` read, and pushes first: `a`'s older view is the
downstream's last. -/
theorem stale_push_is_last_view :
    ∃ s : Sys 2, Relation.ReflTransGen (Step "svc.ns" twoRuns) (start newEndpointSliceCache) s ∧
      (∀ i, s.phases i = .pushed) ∧ s.downstream = some [recordAt "10.0.0.1"] ∧
      ¬ s.cache.GetResult "svc.ns" [recordAt "10.0.0.1"] :=
  ⟨_, .tail (.tail (.tail (.tail (.tail (.single (.update 0 rfl))
      (.get 0 rfl (EndpointSliceCache.getResult_get _ _))) (.update 1 rfl))
      (.get 1 rfl (EndpointSliceCache.getResult_get _ _))) (.push 1 rfl)) (.push 0 rfl),
    by decide, rfl, fun hv ↦ absurd (length_of_getResult hv) (by decide)⟩

end IstioControlPlane.Registry.Concurrent
