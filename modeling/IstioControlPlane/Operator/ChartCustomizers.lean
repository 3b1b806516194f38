import IstioControlPlane.Go

namespace IstioControlPlane.Operator.ChartCustomizers

open Go

structure ObjectRef where
  kind : String
  ns : String
  name : String
  deriving DecidableEq, Repr

structure Secret where
  ns : String
  name : String
  type : String
  deriving DecidableEq, Repr

def Secret.ref (secret : Secret) : ObjectRef := ⟨"Secret", secret.ns, secret.name⟩

/-- The controller-runtime client as the Citadel customizer uses it from a server state `S`. -/
structure Client (S : Type) where
  listSecrets : S → String → Except String (List Secret)
  delete : S → ObjectRef → S × Option String

/-- The customizer `NewChartCustomizer` gives a chart, with the chart name it is made for. -/
inductive ChartCustomizer where
  | citadel (chartName : String)
  | kiali (chartName : String)
  | istioDefault (chartName : String)
  deriving DecidableEq, Repr

def newChartCustomizer (chartName : String) : ChartCustomizer :=
  match chartName with
  | "Citadel" => .citadel chartName
  | "Kiali" => .kiali chartName
  | _ => .istioDefault chartName

def cleanCitadelResourcesMaxRetries : Nat := 10

def cmName : String := "istio-security"

def prunedSecretTypeMap : GoMap String Bool :=
  ((∅ : GoMap String Bool).insert "istio.io/key-and-cert" true).insert "istio.io/ca-root" true
    |>.insert "istio.io/dns-key-and-cert" true

def configMapRef (cmNamespace : String) : ObjectRef := ⟨"ConfigMap", cmNamespace, cmName⟩

section Clean

variable {S : Type} (C : Client S)

/-- The secret loop of one round: each listed secret of a pruned type deleted in turn, a failed
delete returned only in the last round. -/
def deleteSecrets (retryCount : Nat) : List Secret → S → S × Option String
  | [], s => (s, none)
  | secret :: rest, s =>
    if prunedSecretTypeMap.get secret.type then
      match C.delete s secret.ref with
      | (s, some err) =>
        if retryCount = cleanCitadelResourcesMaxRetries then
          (s, some ("error deleting secret " ++ secret.ns ++ "/" ++ secret.name ++ ": " ++ err))
        else deleteSecrets retryCount rest s
      | (s, none) => deleteSecrets retryCount rest s
    else deleteSecrets retryCount rest s

def cleanRound (cmNamespace : String) (secrets : List Secret) (retryCount : Nat) (s : S) :
    S × Option String :=
  match C.delete s (configMapRef cmNamespace) with
  | (s, some err) =>
    if retryCount = cleanCitadelResourcesMaxRetries then
      (s, some ("error deleting ConfigMap " ++ cmNamespace ++ "/" ++ cmName ++ ": " ++ err))
    else deleteSecrets C retryCount secrets s
  | (s, none) => deleteSecrets C retryCount secrets s

/-- The rounds of the retry loop from `retryCount` on, `n` of them left. -/
def cleanRounds (cmNamespace : String) (secrets : List Secret) : Nat → Nat → S → S × Option String
  | _, 0, s => (s, none)
  | retryCount, n + 1, s =>
    match cleanRound C cmNamespace secrets retryCount s with
    | (s, some err) => (s, some err)
    | (s, none) => cleanRounds cmNamespace secrets (retryCount + 1) n s

/-- `cleanCitadelResources`: list the namespace's secrets, then in every one of the retries
delete the `istio-security` ConfigMap and every listed secret of a pruned type. -/
def cleanCitadelResources (obj : ObjectRef) (s : S) : S × Option String :=
  match C.listSecrets s obj.ns with
  | .error err => (s, some ("error getting secret list: " ++ err))
  | .ok secrets => cleanRounds C obj.ns secrets 1 cleanCitadelResourcesMaxRetries s

def ChartCustomizer.resourceDeleted (defaultResourceDeleted : ObjectRef → Option String) :
    ChartCustomizer → ObjectRef → S → S × Option String
  | .citadel _, obj, s =>
    match defaultResourceDeleted obj with
    | some err => (s, some err)
    | none => if obj.kind = "Deployment" then cleanCitadelResources C obj s else (s, none)
  | .kiali _, obj, s | .istioDefault _, obj, s => (s, defaultResourceDeleted obj)

end Clean

def patchKialiConfigMap {Obj : Type} (obj : Obj) : Except String Obj := .ok obj

/-- `BeginResource`: the Kiali customizer hands the default one its own chart name, not `chart`,
and patches a `ConfigMap` afterwards. -/
def ChartCustomizer.beginResource {Obj : Type} (kind : Obj → String)
    (defaultBeginResource : String → Obj → Except String Obj) (chart : String) :
    ChartCustomizer → Obj → Except String Obj
  | .kiali chartName, obj => do
    let obj ← defaultBeginResource chartName obj
    if kind obj = "ConfigMap" then patchKialiConfigMap obj else pure obj
  | .citadel _, obj | .istioDefault _, obj => defaultBeginResource chart obj

theorem kiali_beginResource {Obj : Type} (kind : Obj → String)
    (defaultBeginResource : String → Obj → Except String Obj) (chartName chart : String)
    (obj : Obj) :
    (ChartCustomizer.kiali chartName).beginResource kind defaultBeginResource chart obj =
      defaultBeginResource chartName obj := by
  simp only [ChartCustomizer.beginResource, patchKialiConfigMap]
  cases defaultBeginResource chartName obj <;> simp only [bind, Except.bind, pure, Except.pure, ite_self]

def prunedRefs (secrets : List Secret) : List ObjectRef :=
  (secrets.filter fun secret ↦ prunedSecretTypeMap.get secret.type).map Secret.ref

def citadelTargets (cmNamespace : String) (secrets : List Secret) : List ObjectRef :=
  configMapRef cmNamespace :: prunedRefs secrets

theorem prunedRefs_cons (secret : Secret) (rest : List Secret) :
    prunedRefs (secret :: rest) =
      if prunedSecretTypeMap.get secret.type then secret.ref :: prunedRefs rest
      else prunedRefs rest := by
  by_cases h : prunedSecretTypeMap.get secret.type <;> simp [prunedRefs, List.filter_cons, h]

section Runs

variable {S : Type} (C : Client S)

theorem deleteSecrets_cons_of_ne {retryCount : Nat}
    (hrc : retryCount ≠ cleanCitadelResourcesMaxRetries) (secret : Secret) (rest : List Secret)
    (s : S) :
    deleteSecrets C retryCount (secret :: rest) s =
      deleteSecrets C retryCount rest
        (if prunedSecretTypeMap.get secret.type then (C.delete s secret.ref).1 else s) := by
  simp only [deleteSecrets]
  split
  · split <;> simp_all
  · rfl

theorem cleanRound_of_ne {retryCount : Nat} (hrc : retryCount ≠ cleanCitadelResourcesMaxRetries)
    (cmNamespace : String) (secrets : List Secret) (s : S) :
    cleanRound C cmNamespace secrets retryCount s =
      deleteSecrets C retryCount secrets (C.delete s (configMapRef cmNamespace)).1 := by
  simp only [cleanRound]
  split <;> simp_all

theorem cleanRounds_succ_of_none {cmNamespace : String} {secrets : List Secret} {retryCount : Nat}
    {s : S} (h : (cleanRound C cmNamespace secrets retryCount s).2 = none) (n : Nat) :
    cleanRounds C cmNamespace secrets retryCount (n + 1) s =
      cleanRounds C cmNamespace secrets (retryCount + 1) n (cleanRound C cmNamespace secrets retryCount s).1 := by
  simp only [cleanRounds]
  split <;> simp_all

variable (P : S → Prop)

theorem deleteSecrets_preserves (retryCount : Nat) :
    ∀ (secrets : List Secret) {s : S},
      (∀ s, ∀ r ∈ prunedRefs secrets, P s → P (C.delete s r).1) → P s →
      P (deleteSecrets C retryCount secrets s).1
  | [], _, _, h => h
  | secret :: rest, s, hstep, h => by
    rw [prunedRefs_cons] at hstep
    have hrest : ∀ s, ∀ r ∈ prunedRefs rest, P s → P (C.delete s r).1 := fun s r hr ↦
      hstep s r (by split <;> simp [hr])
    simp only [deleteSecrets]
    split
    · have hd := hstep s secret.ref (by simp [*]) h
      split
      · split
        · simpa [*] using hd
        · exact deleteSecrets_preserves retryCount rest hrest (by simpa [*] using hd)
      · exact deleteSecrets_preserves retryCount rest hrest (by simpa [*] using hd)
    · exact deleteSecrets_preserves retryCount rest hrest h

theorem cleanRounds_preserves (cmNamespace : String) (secrets : List Secret)
    (hstep : ∀ s, ∀ r ∈ citadelTargets cmNamespace secrets, P s → P (C.delete s r).1) :
    ∀ (retryCount n : Nat) {s : S}, P s → P (cleanRounds C cmNamespace secrets retryCount n s).1
  | _, 0, _, h => h
  | retryCount, n + 1, s, h => by
    have hcm := hstep s _ (List.mem_cons_self _ _) h
    have hsec : ∀ {s}, P s → P (deleteSecrets C retryCount secrets s).1 :=
      deleteSecrets_preserves C P retryCount secrets (fun s r hr ↦ hstep s r (List.mem_cons_of_mem _ hr))
    have hround : P (cleanRound C cmNamespace secrets retryCount s).1 := by
      simp only [cleanRound]
      split
      · split
        · simpa [*] using hcm
        · exact hsec (by simpa [*] using hcm)
      · exact hsec (by simpa [*] using hcm)
    simp only [cleanRounds]
    split
    · simpa [*] using hround
    · exact cleanRounds_preserves cmNamespace secrets hstep (retryCount + 1) n (by simpa [*] using hround)

end Runs

section Semantics

variable {S : Type} (C : Client S) (present : S → ObjectRef → Prop)

/-- What the API server does on `Delete`: the object is gone, deleting a missing one fails with
NotFound, and no other object appears or disappears. -/
structure DeleteSemantics : Prop where
  gone : ∀ s r, ¬ present (C.delete s r).1 r
  absent_fails : ∀ s r, ¬ present s r → (C.delete s r).2.isSome
  frame : ∀ s r r', r' ≠ r → (present (C.delete s r).1 r' ↔ present s r')

variable {C present} (hsem : DeleteSemantics C present)
include hsem

theorem absent_delete {s : S} {r : ObjectRef} (h : ¬ present s r) (t : ObjectRef) :
    ¬ present (C.delete s t).1 r := by
  by_cases hrt : r = t
  · exact hrt ▸ hsem.gone s t
  · rwa [hsem.frame s t r hrt]

theorem deleteSecrets_complete {retryCount : Nat}
    (hrc : retryCount ≠ cleanCitadelResourcesMaxRetries) :
    ∀ (secrets : List Secret) (s : S), (deleteSecrets C retryCount secrets s).2 = none ∧
      ∀ r ∈ prunedRefs secrets, ¬ present (deleteSecrets C retryCount secrets s).1 r
  | [], _ => ⟨rfl, by simp [prunedRefs]⟩
  | secret :: rest, s => by
    rw [deleteSecrets_cons_of_ne C hrc, prunedRefs_cons]
    split
    · obtain ⟨h1, h2⟩ := deleteSecrets_complete hrc rest (C.delete s secret.ref).1
      refine ⟨h1, fun r hr ↦ ?_⟩
      rcases List.mem_cons.mp hr with rfl | hr
      · exact deleteSecrets_preserves C (¬ present · secret.ref) retryCount rest
          (fun _ _ _ h ↦ absent_delete hsem h _) (hsem.gone s _)
      · exact h2 r hr
    · exact deleteSecrets_complete hrc rest s

theorem cleanRound_complete {retryCount : Nat} (hrc : retryCount ≠ cleanCitadelResourcesMaxRetries)
    (cmNamespace : String) (secrets : List Secret) (s : S) :
    (cleanRound C cmNamespace secrets retryCount s).2 = none ∧
      ∀ r ∈ citadelTargets cmNamespace secrets, ¬ present (cleanRound C cmNamespace secrets retryCount s).1 r := by
  rw [cleanRound_of_ne C hrc]
  obtain ⟨h1, h2⟩ := deleteSecrets_complete hsem hrc secrets (C.delete s (configMapRef cmNamespace)).1
  refine ⟨h1, fun r hr ↦ ?_⟩
  rcases List.mem_cons.mp hr with rfl | hr
  · exact deleteSecrets_preserves C (¬ present · _) retryCount secrets
      (fun _ _ _ h ↦ absent_delete hsem h _) (hsem.gone s _)
  · exact h2 r hr

theorem cleanRounds_configMap_error (cmNamespace : String) (secrets : List Secret) :
    ∀ (n retryCount : Nat) (s : S), retryCount + n = cleanCitadelResourcesMaxRetries →
      (∀ r ∈ citadelTargets cmNamespace secrets, ¬ present s r) →
      ∃ err, (cleanRounds C cmNamespace secrets retryCount (n + 1) s).2 =
        some ("error deleting ConfigMap " ++ cmNamespace ++ "/" ++ cmName ++ ": " ++ err)
  | 0, retryCount, s, hrc, habs => by
    obtain ⟨err, herr⟩ := Option.isSome_iff_exists.mp
      (hsem.absent_fails s _ (habs _ (List.mem_cons_self _ _)))
    have hd : C.delete s (configMapRef cmNamespace) =
        ((C.delete s (configMapRef cmNamespace)).1, some err) := Prod.ext rfl herr
    rw [Nat.add_zero] at hrc
    refine ⟨err, ?_⟩
    rw [cleanRounds, cleanRound, hd]
    simp only [if_pos hrc]
  | n + 1, retryCount, s, hrc, habs => by
    have hne : retryCount ≠ cleanCitadelResourcesMaxRetries := by omega
    obtain ⟨h1, h2⟩ := cleanRound_complete hsem hne cmNamespace secrets s
    rw [cleanRounds_succ_of_none C h1]
    exact cleanRounds_configMap_error cmNamespace secrets n (retryCount + 1) _ (by omega) h2

/-- The Citadel cleanup never reports success: the loop has no exit on success, and the last
round's delete of the ConfigMap, already gone, fails and is returned. -/
theorem cleanCitadelResources_reports_configMap_error (obj : ObjectRef) (s : S)
    {secrets : List Secret} (hl : C.listSecrets s obj.ns = .ok secrets) :
    (∃ err, (cleanCitadelResources C obj s).2 =
        some ("error deleting ConfigMap " ++ obj.ns ++ "/" ++ cmName ++ ": " ++ err)) ∧
      ∀ r, present (cleanCitadelResources C obj s).1 r ↔
        present s r ∧ r ∉ citadelTargets obj.ns secrets := by
  have hclean : cleanCitadelResources C obj s =
      cleanRounds C obj.ns secrets 1 cleanCitadelResourcesMaxRetries s := by
    simp only [cleanCitadelResources, hl]
  obtain ⟨h1, h2⟩ := cleanRound_complete hsem (by decide : 1 ≠ cleanCitadelResourcesMaxRetries)
    obj.ns secrets s
  have hrun : cleanCitadelResources C obj s =
      cleanRounds C obj.ns secrets 2 9 (cleanRound C obj.ns secrets 1 s).1 :=
    hclean.trans (cleanRounds_succ_of_none C h1 9)
  refine ⟨hrun ▸ cleanRounds_configMap_error hsem obj.ns secrets 8 2 _ rfl h2, fun r ↦ ?_⟩
  by_cases hr : r ∈ citadelTargets obj.ns secrets
  · simp only [hr, not_true_eq_false, and_false, iff_false, hrun]
    exact cleanRounds_preserves C (¬ present · r) obj.ns secrets
      (fun _ _ _ h ↦ absent_delete hsem h _) 2 9 (h2 r hr)
  · simp only [hr, not_false_eq_true, and_true, hclean]
    exact cleanRounds_preserves C (present · r ↔ present s r) obj.ns secrets
      (fun s' t ht h ↦ (hsem.frame s' t r (fun e ↦ hr (e ▸ ht))).trans h) 1 _ Iff.rfl

end Semantics

theorem citadel_resourceDeleted_deployment {S : Type} (C : Client S)
    (defaultResourceDeleted : ObjectRef → Option String) {obj : ObjectRef} (s : S)
    (hk : obj.kind = "Deployment") (hd : defaultResourceDeleted obj = none) :
    (newChartCustomizer "Citadel").resourceDeleted C defaultResourceDeleted obj s =
      cleanCitadelResources C obj s := by
  simp only [newChartCustomizer, ChartCustomizer.resourceDeleted, hd, hk, if_true]

structure StoredObject where
  ref : ObjectRef
  type : String
  deriving DecidableEq, Repr

/-- An in-memory API server: `List` gives the namespace's secrets in the order held. -/
def memoryServer : Client (List StoredObject) where
  listSecrets s ns := .ok ((s.filter fun o ↦ o.ref.kind = "Secret" && o.ref.ns = ns).map
    fun o ↦ ⟨o.ref.ns, o.ref.name, o.type⟩)
  delete s r := if r ∈ s.map StoredObject.ref then (s.filter (·.ref ≠ r), none)
    else (s, some ("not found: " ++ r.name))

theorem memoryServer_deleteSemantics :
    DeleteSemantics memoryServer fun s r ↦ r ∈ s.map StoredObject.ref := by
  refine ⟨fun s r ↦ ?_, fun s r h ↦ by simp only [memoryServer, if_neg h]; rfl, fun s r r' hne ↦ ?_⟩
  · simp only [memoryServer]
    split <;> simp_all
  · simp only [memoryServer]
    split
    · simp only [List.mem_map, List.mem_filter, decide_eq_true_eq]
      exact ⟨fun ⟨a, ⟨ha, _⟩, he⟩ ↦ ⟨a, ha, he⟩, fun ⟨a, ha, he⟩ ↦ ⟨a, ⟨ha, he ▸ hne⟩, he⟩⟩
    · rfl

def citadelStore : List StoredObject :=
  [⟨⟨"Deployment", "istio-system", "istio-citadel"⟩, ""⟩,
    ⟨configMapRef "istio-system", ""⟩,
    ⟨⟨"Secret", "istio-system", "istio.default"⟩, "istio.io/key-and-cert"⟩,
    ⟨⟨"Secret", "istio-system", "istio-ca-secret"⟩, "istio.io/ca-root"⟩,
    ⟨⟨"Secret", "istio-system", "ingress-tls"⟩, "kubernetes.io/tls"⟩]

def citadelSecrets : List Secret :=
  [⟨"istio-system", "istio.default", "istio.io/key-and-cert"⟩,
    ⟨"istio-system", "istio-ca-secret", "istio.io/ca-root"⟩,
    ⟨"istio-system", "ingress-tls", "kubernetes.io/tls"⟩]

theorem citadel_cleanup_fails_after_deleting :
    DeleteSemantics memoryServer (fun s r ↦ r ∈ s.map StoredObject.ref) ∧
      memoryServer.listSecrets citadelStore "istio-system" = .ok citadelSecrets ∧
      (∃ err, (cleanCitadelResources memoryServer ⟨"Deployment", "istio-system", "istio-citadel"⟩
          citadelStore).2 =
        some ("error deleting ConfigMap " ++ "istio-system" ++ "/" ++ cmName ++ ": " ++ err)) ∧
      ∀ r, r ∈ (cleanCitadelResources memoryServer ⟨"Deployment", "istio-system", "istio-citadel"⟩
          citadelStore).1.map StoredObject.ref ↔
        r ∈ citadelStore.map StoredObject.ref ∧ r ∉ citadelTargets "istio-system" citadelSecrets :=
  have hl : memoryServer.listSecrets citadelStore "istio-system" = .ok citadelSecrets := rfl
  ⟨memoryServer_deleteSemantics, hl,
    cleanCitadelResources_reports_configMap_error memoryServer_deleteSemantics _ _ hl⟩

end IstioControlPlane.Operator.ChartCustomizers
