import IstioControlPlane.Go

namespace IstioControlPlane.Operator.HelmReconciler

open Go

/-- What `ProcessManifest` calls of the `object` package, which is not part of this model: the
YAML parser, `K8sObject.Hash` and `K8sObject.Equal`. -/
structure ObjectPackage (Obj : Type) where
  parseK8sObjectsFromYAMLManifest : String → Except String (List Obj)
  hash : Obj → String
  equal : Obj → Obj → Bool

structure Manifest where
  name : String
  content : String

structure ObjectCache (Obj : Type) where
  cache : GoMap String Obj

/-- The package's `objectCaches`, by CR name, and, as a ghost, every object applied without
error, with its CR name and hash, in order. -/
structure World (Obj : Type) where
  objectCaches : GoMap String (ObjectCache Obj)
  applied : List (String × String × Obj)

structure ApplyState (Obj : Type) where
  deployed : ℕ
  errs : List String
  cache : GoMap String Obj
  applied : List (String × String × Obj)

variable {Obj : Type} (O : ObjectPackage Obj)

def unchanged (cache : GoMap String Obj) (obj : Obj) : Bool :=
  match cache.lookup (O.hash obj) with
  | some co => O.equal obj co
  | none => false

def checkObjects (cache : GoMap String Obj) : ℕ × List Obj → List Obj → ℕ × List Obj
  | acc, [] => acc
  | (deployed, changed), obj :: rest =>
    checkObjects cache
      (if unchanged O cache obj then (deployed + 1, changed) else (deployed, changed ++ [obj]))
      rest

/-- The second loop: `processObject k` is the error of the `k`-th `ProcessObject` call, if it
fails; an object applied without error is counted and cached under its hash. -/
def applyObjects (crName : String) (processObject : ℕ → Option String) :
    ℕ → ApplyState Obj → List Obj → ApplyState Obj
  | _, acc, [] => acc
  | k, acc, obj :: rest =>
    match processObject k with
    | some err =>
      applyObjects crName processObject (k + 1) { acc with errs := acc.errs ++ [err] } rest
    | none =>
      applyObjects crName processObject (k + 1)
        { acc with
          deployed := acc.deployed + 1
          cache := acc.cache.insert (O.hash obj) obj
          applied := acc.applied ++ [(crName, O.hash obj, obj)] } rest

/-- The ghost entries of the objects whose `ProcessObject` call, the `k`-th for the object at
index `k`, returned no error. -/
def appliedWithoutError (crName : String) (processObject : ℕ → Option String) (k : ℕ)
    (objs : List Obj) : List (String × String × Obj) :=
  ((objs.enumFrom k).filter fun p ↦ (processObject p.1).isNone).map
    fun p ↦ (crName, O.hash p.2, p.2)

def prune (cache : GoMap String Obj) (allObjectsMap : List String) : GoMap String Obj :=
  (cache.keys.filter (· ∉ allObjectsMap)).foldl (fun c k ↦ c.erase k) cache

def processManifest (instanceName : String) (w : World Obj) (manifest : Manifest)
    (processObject : ℕ → Option String) : World Obj × ℕ × List String :=
  let crName := instanceName ++ "-" ++ manifest.name
  match O.parseK8sObjectsFromYAMLManifest manifest.content with
  | .error err => (w, 0, [err])
  | .ok allObjects =>
    let objectCache := (w.objectCaches.lookup crName).getD ⟨∅⟩
    let checked := checkObjects O objectCache.cache (0, []) allObjects
    let r := applyObjects O crName processObject 0
      ⟨checked.1, [], objectCache.cache, w.applied⟩ checked.2
    (⟨w.objectCaches.insert crName ⟨prune r.cache (allObjects.map O.hash)⟩, r.applied⟩,
      r.deployed, r.errs)

inductive Call
  | processManifest (manifest : Manifest) (processObject : ℕ → Option String)
  | flushObjectCaches

def step (instanceName : String) (w : World Obj) : Call → World Obj
  | .processManifest manifest processObject =>
    (processManifest O instanceName w manifest processObject).1
  | .flushObjectCaches => { w with objectCaches := ∅ }

def run (instanceName : String) (calls : List Call) : World Obj :=
  calls.foldl (step O instanceName) ⟨∅, []⟩

def cacheOf (w : World Obj) (crName : String) : GoMap String Obj :=
  ((w.objectCaches.lookup crName).getD ⟨∅⟩).cache

def lastApplied (applied : List (String × String × Obj)) (crName k : String) : Option Obj :=
  (applied.reverse.find? (fun x ↦ x.1 == crName && x.2.1 == k)).map (·.2.2)

/-- Every cached object is the one last applied without error under its CR and hash. -/
def CachedApplied (w : World Obj) : Prop :=
  ∀ crName k o, (cacheOf w crName).lookup k = some o → lastApplied w.applied crName k = some o

theorem lastApplied_append (applied : List (String × String × Obj)) (x : String × String × Obj)
    (crName k : String) :
    lastApplied (applied ++ [x]) crName k =
      if x.1 = crName ∧ x.2.1 = k then some x.2.2 else lastApplied applied crName k := by
  by_cases hx : x.1 = crName ∧ x.2.1 = k <;> simp [lastApplied, List.find?_cons, hx]

theorem checkObjects_eq (cache : GoMap String Obj) :
    ∀ (objs : List Obj) (deployed : ℕ) (changed : List Obj),
      checkObjects O cache (deployed, changed) objs =
        (deployed + (objs.filter (unchanged O cache)).length,
          changed ++ objs.filter fun obj ↦ !unchanged O cache obj)
  | [], _, _ => by simp [checkObjects]
  | obj :: rest, deployed, changed => by
    by_cases hu : unchanged O cache obj
    · simp only [checkObjects, hu, if_true, checkObjects_eq cache rest, List.filter_cons]
      exact Prod.ext (by simp; omega) (by simp)
    · simp [checkObjects, hu, checkObjects_eq cache rest, List.filter_cons]

variable (crName : String) (processObject : ℕ → Option String)

@[simp] theorem appliedWithoutError_nil (k : ℕ) :
    appliedWithoutError O crName processObject k [] = [] := rfl

theorem appliedWithoutError_cons (k : ℕ) (obj : Obj) (rest : List Obj) :
    appliedWithoutError O crName processObject k (obj :: rest) =
      (if processObject k = none then [(crName, O.hash obj, obj)] else []) ++
        appliedWithoutError O crName processObject (k + 1) rest := by
  cases hk : processObject k <;> simp [appliedWithoutError, List.filter_cons, hk]

theorem fst_of_mem_appliedWithoutError {k : ℕ} {objs : List Obj} {x : String × String × Obj}
    (hx : x ∈ appliedWithoutError O crName processObject k objs) : x.1 = crName := by
  obtain ⟨p, -, rfl⟩ := List.mem_map.mp hx
  rfl

/-- The second loop logs exactly the objects whose `ProcessObject` call returned no error, and
counts each of them. -/
theorem applyObjects_applied_eq :
    ∀ (objs : List Obj) (k : ℕ) (acc : ApplyState Obj),
      (applyObjects O crName processObject k acc objs).applied =
          acc.applied ++ appliedWithoutError O crName processObject k objs ∧
        (applyObjects O crName processObject k acc objs).deployed =
          acc.deployed + (appliedWithoutError O crName processObject k objs).length
  | [], _, acc => by simp [applyObjects]
  | obj :: rest, k, acc => by
    rw [appliedWithoutError_cons]
    cases hk : processObject k with
    | some err =>
      simpa [applyObjects, hk] using applyObjects_applied_eq rest (k + 1) { acc with errs := _ }
    | none =>
      obtain ⟨happ, hdep⟩ := applyObjects_applied_eq rest (k + 1)
        { acc with
          deployed := acc.deployed + 1
          cache := acc.cache.insert (O.hash obj) obj
          applied := acc.applied ++ [(crName, O.hash obj, obj)] }
      simp only [applyObjects, hk, if_true] at happ hdep ⊢
      exact ⟨by rw [happ, List.append_assoc],
        by rw [hdep, List.length_append, List.length_singleton]; omega⟩

theorem applyObjects_cache :
    ∀ (objs : List Obj) (k : ℕ) (acc : ApplyState Obj),
      (∀ key o, acc.cache.lookup key = some o → lastApplied acc.applied crName key = some o) →
      ∀ key o, (applyObjects O crName processObject k acc objs).cache.lookup key = some o →
        lastApplied (applyObjects O crName processObject k acc objs).applied crName key = some o
  | [], _, _, h => h
  | obj :: rest, k, acc, h => by
    cases hk : processObject k with
    | some err =>
      simp only [applyObjects, hk]
      exact applyObjects_cache rest (k + 1) _ h
    | none =>
      simp only [applyObjects, hk]
      refine applyObjects_cache rest (k + 1) _ fun key o ho ↦ ?_
      rw [lastApplied_append]
      by_cases hkey : O.hash obj = key
      · subst hkey
        simpa using ho
      · rw [AList.lookup_insert_ne (Ne.symm hkey)] at ho
        simpa [hkey] using h key o ho

theorem lookup_foldl_erase (k : String) :
    ∀ (keys : List String) (cache : GoMap String Obj),
      (keys.foldl (fun c k ↦ c.erase k) cache).lookup k =
        if k ∈ keys then none else cache.lookup k
  | [], _ => by simp
  | r :: keys, cache => by
    rw [List.foldl_cons, lookup_foldl_erase k keys]
    by_cases hr : k = r
    · subst hr
      simp
    · simp [hr, AList.lookup_erase_ne hr]

theorem lookup_prune (cache : GoMap String Obj) (allObjectsMap : List String) (k : String) :
    (prune cache allObjectsMap).lookup k =
      if k ∈ allObjectsMap then cache.lookup k else none := by
  rw [prune, lookup_foldl_erase]
  by_cases hk : k ∈ allObjectsMap
  · simp [hk]
  · rw [if_neg hk]
    split_ifs with hmem
    · rfl
    · exact AList.lookup_eq_none.mpr fun hc ↦
        hmem (List.mem_filter.mpr ⟨AList.mem_keys.mpr hc, by simpa using hk⟩)

theorem lastApplied_append_of_ne (applied new : List (String × String × Obj)) {crName : String}
    (hnew : ∀ x ∈ new, x.1 ≠ crName) (k : String) :
    lastApplied (applied ++ new) crName k = lastApplied applied crName k := by
  have hnone : new.reverse.find? (fun x ↦ x.1 == crName && x.2.1 == k) = none :=
    List.find?_eq_none.mpr fun x hx ↦ by simp [hnew x (List.mem_reverse.mp hx)]
  simp only [lastApplied, List.reverse_append, List.find?_append, hnone, Option.none_or]

theorem cacheOf_insert (w : World Obj) (crName c : String) (cache : GoMap String Obj)
    (applied : List (String × String × Obj)) :
    cacheOf ⟨w.objectCaches.insert crName ⟨cache⟩, applied⟩ c =
      if c = crName then cache else cacheOf w c := by
  by_cases hc : c = crName
  · subst hc
    simp [cacheOf]
  · simp [cacheOf, hc, AList.lookup_insert_ne hc]

theorem unchanged_lastApplied {w : World Obj} (hw : CachedApplied w) {crName : String} {obj : Obj}
    (hu : unchanged O (cacheOf w crName) obj) :
    ∃ co, lastApplied w.applied crName (O.hash obj) = some co ∧ O.equal obj co := by
  unfold unchanged at hu
  split at hu
  · exact ⟨_, hw _ _ _ ‹_›, hu⟩
  · cases hu

variable {instanceName : String} {w : World Obj} {manifest : Manifest}

theorem processManifest_error {processObject : ℕ → Option String} {err : String}
    (hp : O.parseK8sObjectsFromYAMLManifest manifest.content = .error err) :
    processManifest O instanceName w manifest processObject = (w, 0, [err]) := by
  simp [processManifest, hp]

theorem processManifest_ok_eq {objs : List Obj}
    (hp : O.parseK8sObjectsFromYAMLManifest manifest.content = .ok objs) :
    processManifest O instanceName w manifest processObject =
      let crName := instanceName ++ "-" ++ manifest.name
      let r := applyObjects O crName processObject 0
        ⟨(objs.filter (unchanged O (cacheOf w crName))).length, [], cacheOf w crName, w.applied⟩
        (objs.filter fun obj ↦ !unchanged O (cacheOf w crName) obj)
      (⟨w.objectCaches.insert crName ⟨prune r.cache (objs.map O.hash)⟩, r.applied⟩,
        r.deployed, r.errs) := by
  simp only [processManifest, hp, checkObjects_eq, Nat.zero_add, List.nil_append]
  rfl

theorem processManifest_ok (hw : CachedApplied w) {objs : List Obj}
    (hp : O.parseK8sObjectsFromYAMLManifest manifest.content = .ok objs) :
    let crName := instanceName ++ "-" ++ manifest.name
    let r := processManifest O instanceName w manifest processObject
    let applied := appliedWithoutError O crName processObject 0
      (objs.filter fun obj ↦ !unchanged O (cacheOf w crName) obj)
    CachedApplied r.1 ∧ r.1.applied = w.applied ++ applied ∧
    (∀ k ∈ cacheOf r.1 crName, ∃ obj ∈ objs, O.hash obj = k) ∧
    r.2.1 = (objs.filter (unchanged O (cacheOf w crName))).length + applied.length := by
  rw [processManifest_ok_eq O processObject hp]
  dsimp only
  set crName := instanceName ++ "-" ++ manifest.name
  set acc : ApplyState Obj := ⟨(objs.filter (unchanged O (cacheOf w crName))).length, [],
    cacheOf w crName, w.applied⟩
  set changed := objs.filter fun obj ↦ !unchanged O (cacheOf w crName) obj
  obtain ⟨happ, hdep⟩ := applyObjects_applied_eq O crName processObject changed 0 acc
  have hcache := applyObjects_cache O crName processObject changed 0 acc (hw crName)
  refine ⟨fun c k o ho ↦ ?_, happ, fun k hk ↦ ?_, hdep⟩
  · rw [cacheOf_insert] at ho
    split_ifs at ho with hc
    · subst hc
      rw [lookup_prune] at ho
      split_ifs at ho
      exact hcache k o ho
    · rw [happ, lastApplied_append_of_ne _ _ (fun x hx h ↦
        hc (h.symm.trans (fst_of_mem_appliedWithoutError O crName processObject hx)))]
      exact hw c k o ho
  · rw [cacheOf_insert, if_pos rfl, ← AList.lookup_isSome, lookup_prune] at hk
    split_ifs at hk with hmem
    · simpa using hmem
    · cases hk

theorem cachedApplied_step (hw : CachedApplied w) (call : Call) :
    CachedApplied (step O instanceName w call) := by
  cases call with
  | processManifest manifest processObject =>
    cases hp : O.parseK8sObjectsFromYAMLManifest manifest.content with
    | error err => rw [step, processManifest_error O hp]; exact hw
    | ok objs => exact (processManifest_ok O processObject hw hp).1
  | flushObjectCaches => intro c k o ho; simp [step, cacheOf] at ho

theorem cachedApplied_run (instanceName : String) (calls : List Call) :
    CachedApplied (run O instanceName calls) := by
  suffices ∀ w, CachedApplied w → CachedApplied (calls.foldl (step O instanceName) w) from
    this _ fun _ _ _ h ↦ by simp [cacheOf] at h
  induction calls with
  | nil => exact fun _ hw ↦ hw
  | cons call calls ih => exact fun w hw ↦ ih _ (cachedApplied_step O hw call)

/-- After any calls, flushes included, a further `ProcessManifest` logs as applied exactly the
changed objects whose apply succeeded, and every cached object is the last one applied. -/
theorem processManifest_after_calls (instanceName : String) (calls : List Call)
    (manifest : Manifest) (processObject : ℕ → Option String) (w' : World Obj) (n : ℕ)
    (errs : List String) :
    let w := run O instanceName calls
    let crName := instanceName ++ "-" ++ manifest.name
    processManifest O instanceName w manifest processObject = (w', n, errs) →
    CachedApplied w' ∧
    (∀ err, O.parseK8sObjectsFromYAMLManifest manifest.content = .error err →
      w' = w ∧ n = 0 ∧ errs = [err]) ∧
    ∀ objs, O.parseK8sObjectsFromYAMLManifest manifest.content = .ok objs →
      let applied := appliedWithoutError O crName processObject 0
        (objs.filter fun obj ↦ !unchanged O (cacheOf w crName) obj)
      w'.applied = w.applied ++ applied ∧
      (∀ k ∈ cacheOf w' crName, ∃ obj ∈ objs, O.hash obj = k) ∧
      n = (objs.filter (unchanged O (cacheOf w crName))).length + applied.length ∧
      ∀ obj ∈ objs, unchanged O (cacheOf w crName) obj →
        ∃ co, lastApplied w.applied crName (O.hash obj) = some co ∧ O.equal obj co := by
  intro w crName h
  have hw : CachedApplied w := cachedApplied_run O instanceName calls
  refine ⟨?_, fun err hp ↦ ?_, fun objs hp ↦ ?_⟩
  · have h' : CachedApplied (step O instanceName w (.processManifest manifest processObject)) :=
      cachedApplied_step O hw _
    rwa [step, h] at h'
  · rw [processManifest_error O hp, Prod.mk.injEq, Prod.mk.injEq] at h
    exact ⟨h.1.symm, h.2.1.symm, h.2.2.symm⟩
  · obtain ⟨-, happ, hkeys, hcount⟩ := processManifest_ok O processObject hw hp
    rw [h] at happ hkeys hcount
    exact ⟨happ, hkeys, hcount, fun obj _ hu ↦ unchanged_lastApplied O hw hu⟩

/-- One object per manifest, named by its content, which is also its hash; `kind: [` does not
parse. -/
def samplePackage : ObjectPackage String :=
  ⟨fun content ↦ if content = "kind: [" then .error "yaml: did not find expected node content"
    else .ok [content], id, (· == ·)⟩

def pilot : Manifest := ⟨"Pilot", "deployment/istiod"⟩

theorem processManifest_after_failed_apply :
    ∃ w' n errs, processManifest samplePackage "istio"
        (run samplePackage "istio" [.processManifest pilot fun _ ↦ some "conflict"]) pilot
          (fun _ ↦ none) = (w', n, errs) ∧
      CachedApplied w' ∧
      w'.applied = [("istio-Pilot", "deployment/istiod", "deployment/istiod")] ∧
      n = 1 ∧ errs = [] :=
  ⟨_, _, _, rfl, (processManifest_after_calls samplePackage "istio"
    [.processManifest pilot fun _ ↦ some "conflict"] pilot (fun _ ↦ none) _ _ _ rfl).1,
    rfl, rfl, rfl⟩

/-- A manifest that does not parse leaves the previous manifest's object in the CR's cache. -/
theorem unparsable_manifest_keeps_previous_keys :
    samplePackage.parseK8sObjectsFromYAMLManifest "kind: [" =
        .error "yaml: did not find expected node content" ∧
      (processManifest samplePackage "istio"
        (run samplePackage "istio" [.processManifest pilot fun _ ↦ none])
        ⟨"Pilot", "kind: ["⟩ (fun _ ↦ none)).2 =
          (0, ["yaml: did not find expected node content"]) ∧
      (cacheOf (processManifest samplePackage "istio"
        (run samplePackage "istio" [.processManifest pilot fun _ ↦ none])
        ⟨"Pilot", "kind: ["⟩ (fun _ ↦ none)).1 "istio-Pilot").keys = ["deployment/istiod"] :=
  ⟨rfl, rfl, rfl⟩

theorem applyObjects_deployed_errs (crName : String) (processObject : ℕ → Option String) :
    ∀ (objs : List Obj) (k : ℕ) (acc : ApplyState Obj),
      (applyObjects O crName processObject k acc objs).deployed +
          (applyObjects O crName processObject k acc objs).errs.length =
        acc.deployed + acc.errs.length + objs.length ∧
      (applyObjects O crName processObject k acc objs).errs =
        acc.errs ++ (List.range' k objs.length).filterMap processObject
  | [], _, acc => by simp [applyObjects]
  | obj :: rest, k, acc => by
    cases hk : processObject k with
    | some err =>
      obtain ⟨h₁, h₂⟩ := applyObjects_deployed_errs crName processObject rest (k + 1)
        { acc with errs := acc.errs ++ [err] }
      simp only [applyObjects, hk, List.length_append, List.length_singleton,
        List.length_cons, List.length_nil] at h₁ h₂ ⊢
      refine ⟨by omega, ?_⟩
      rw [h₂, List.range'_succ, List.filterMap_cons, hk, List.append_assoc]
      rfl
    | none =>
      obtain ⟨h₁, h₂⟩ := applyObjects_deployed_errs crName processObject rest (k + 1)
        { acc with
          deployed := acc.deployed + 1
          cache := acc.cache.insert (O.hash obj) obj
          applied := acc.applied ++ [(crName, O.hash obj, obj)] }
      simp only [applyObjects, hk, List.length_cons] at h₁ h₂ ⊢
      refine ⟨by omega, ?_⟩
      rw [h₂, List.range'_succ, List.filterMap_cons, hk]

/-- Every object of a manifest that parses is counted or gave one of the errors, which are the
errors of the `ProcessObject` calls in call order. -/
theorem processManifest_accounts_objects {instanceName : String} {w : World Obj}
    {manifest : Manifest} (processObject : ℕ → Option String) {objs : List Obj}
    (hp : O.parseK8sObjectsFromYAMLManifest manifest.content = .ok objs) :
    (processManifest O instanceName w manifest processObject).2.1 +
        (processManifest O instanceName w manifest processObject).2.2.length = objs.length ∧
      (processManifest O instanceName w manifest processObject).2.2 =
        (List.range (objs.filter fun obj ↦
          !unchanged O (cacheOf w (instanceName ++ "-" ++ manifest.name)) obj).length).filterMap
          processObject := by
  rw [processManifest_ok_eq O processObject hp]
  dsimp only
  obtain ⟨h₁, h₂⟩ := applyObjects_deployed_errs O (instanceName ++ "-" ++ manifest.name)
    processObject (objs.filter fun obj ↦
      !unchanged O (cacheOf w (instanceName ++ "-" ++ manifest.name)) obj) 0
    ⟨(objs.filter (unchanged O (cacheOf w (instanceName ++ "-" ++ manifest.name)))).length, [],
      cacheOf w (instanceName ++ "-" ++ manifest.name), w.applied⟩
  refine ⟨?_, by rw [h₂, List.range_eq_range', List.nil_append]⟩
  rw [h₁]
  dsimp only
  rw [List.length_nil, Nat.add_zero]
  exact (List.length_eq_length_filter_add _).symm

theorem failed_apply_is_accounted :
    samplePackage.parseK8sObjectsFromYAMLManifest pilot.content = .ok ["deployment/istiod"] ∧
      (processManifest samplePackage "istio" ⟨∅, []⟩ pilot fun _ ↦ some "conflict").2.1 +
          (processManifest samplePackage "istio" ⟨∅, []⟩ pilot fun _ ↦ some "conflict").2.2.length =
        ["deployment/istiod"].length ∧
      (processManifest samplePackage "istio" ⟨∅, []⟩ pilot fun _ ↦ some "conflict").2.2 =
        (List.range (["deployment/istiod"].filter fun obj ↦
          !unchanged samplePackage (cacheOf ⟨∅, []⟩ ("istio" ++ "-" ++ pilot.name)) obj).length).filterMap
          fun _ ↦ some "conflict" :=
  ⟨rfl, processManifest_accounts_objects samplePackage (fun _ ↦ some "conflict") rfl⟩

end IstioControlPlane.Operator.HelmReconciler
