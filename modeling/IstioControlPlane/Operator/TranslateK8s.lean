import IstioControlPlane.Operator.Translate

namespace IstioControlPlane.Operator.TranslateK8s

open Go Translate

abbrev Tree := List (String × Node)

/-- What the Kubernetes, gateway and enablement translations use of code that is not part of
this model: `util`, `fmt`, `yaml`, the `name` package and the rest of `translate`. -/
structure K8sOps where
  pathFromString : String → List String
  renderTemplate : String → String → Except String String
  renderFeatureComponentPathTemplate : String → String → Except String String
  isComponentEnabledFromValue : String → Tree → Except String (Bool × Bool)
  isCoreComponent : String → Bool
  ingressComponentName : String
  egressComponentName : String
  typeName : Node → String
  formatValue : Node → String
  formatFloat : Node → String
  yamlUnmarshal : String → Except String Node

/-- The order a `range` visits a map in. -/
structure RangeOrder where
  range : ∀ {V : Type}, GoMap String V → List (String × V)

def componentEnablementPattern : String := "Components.\x7b\x7b.ComponentName\x7d\x7d.Enabled"

def addonEnablementPattern : String := "AddonComponents.\x7b\x7b.ComponentName\x7d\x7d.Enabled"

section Translate

variable (N : ComponentNames) (P : PathOps) (T : TreeOps Tree) (K : K8sOps)

def renderComponentName (tmpl componentName : String) : Except String String :=
  K.renderTemplate tmpl componentName

def isAddon (cn : String) : Bool := !K.isCoreComponent cn && !N.isGateway cn

def setEnablementFromValue (valueSpec : Tree) : List String → Tree → Except String Tree
  | [], root => .ok root
  | cni :: rest, root => do
    let (enabled, pathExist) ← K.isComponentEnabledFromValue cni valueSpec
    if !pathExist then setEnablementFromValue valueSpec rest root
    else
      let tmpl := if isAddon N K cni then addonEnablementPattern else componentEnablementPattern
      let ceVal ← K.renderFeatureComponentPathTemplate tmpl cni
      let root ← T.writeNode root (P.toYAMLPath ceVal) (.scalar (.bool enabled))
      setEnablementFromValue valueSpec rest root

def strategyFieldMap : List (String × String) :=
  [("rollingMaxSurge", "maxSurge"), ("rollingMaxUnavailable", "maxUnavailable")]

def translateStrategy (fieldName outPath : String) (value : Node) (cpSpecTree : Tree) :
    Except String Tree :=
  match strategyFieldMap.lookup fieldName with
  | none => .error ("expected field name found in values.yaml: " ++ fieldName)
  | some newFieldName =>
    T.writeNode cpSpecTree (P.toYAMLPath (outPath ++ ".rollingUpdate." ++ newFieldName)) value

def translateEnv (outPath : String) (value : Node) (cpSpecTree : Tree) : Except String Tree :=
  match value with
  | .map envMap =>
    T.writeNode cpSpecTree (P.toYAMLPath outPath) (.list (envMap.map fun kv ↦
      .map [("name", .scalar (.string kv.1)), ("value", .scalar (.string (K.formatValue kv.2)))]))
  | v => .error ("expect env node type to be map[string]interface\x7b\x7d but got: " ++ K.typeName v)

/-- `setOutputAndClean`. Its callers set `clean` exactly when they pass the input's own value or
one made from it; the `scaleTargetRef` it writes otherwise is built from the component's name. -/
def setOutputAndClean (valPath outPath : String) (outVal : Node) (valueTree cpSpecTree : Tree)
    (clean : Bool) : Except String (Translated Tree) := do
  let cpSpecTree ← T.writeNode cpSpecTree (P.toYAMLPath outPath) outVal
  if !clean then pure ⟨valueTree, cpSpecTree, [], []⟩
  else
    let valueTree ← T.deleteFromTree valueTree (P.toYAMLPath valPath)
    pure ⟨valueTree, cpSpecTree, [P.toYAMLPath valPath], [P.toYAMLPath valPath]⟩

def hpaValMap : GoMap String String :=
  ((∅ : GoMap String String).insert ".autoscaleMin" ".minReplicas").insert ".autoscaleMax"
    ".maxReplicas"

/-- The loop of `translateHPASpec` over `valMap`: each bound found is moved to its field. -/
def translateHPABounds (newPS outPath : String) :
    List (String × String) → Tree → Tree → Except String (Translated Tree)
  | [], valueTree, cpSpecTree => .ok ⟨valueTree, cpSpecTree, [], []⟩
  | (key, newVal) :: rest, valueTree, cpSpecTree =>
    match T.getFromTreePath valueTree (P.toYAMLPath (newPS ++ key)) with
    | .ok (some asVal) => do
      let r ← setOutputAndClean P T (newPS ++ key) (outPath ++ newVal) asVal valueTree cpSpecTree true
      let r' ← translateHPABounds newPS outPath rest r.valueTree r.cpSpecTree
      pure (r.append r')
    | _ => translateHPABounds newPS outPath rest valueTree cpSpecTree

def metricsYAML (asVal : Node) : String :=
  "\n- type: Resource\n  resource:\n    name: cpu\n    targetAverageUtilization: " ++
    K.formatFloat asVal

def scaleTargetRefYAML (newPS : String) : String :=
  "\napiVersion: apps/v1\nkind: Deployment\nname: istio-" ++ newPS

/-- The component path `translateHPASpec` names the deployment after. -/
def hpaDeploymentPath (inPath : String) : String :=
  let newP := K.pathFromString inPath
  let newPS := P.pathString newP.dropLast
  if specialComponentPath.contains newPS && newP.length > 2 then P.pathString (newP.drop 1).dropLast
  else newPS

def translateHPAMetrics (valPath outPath : String) (valueTree cpSpecTree : Tree) :
    Except String (Translated Tree) :=
  match T.getFromTreePath valueTree (P.toYAMLPath valPath) with
  | .ok (some asVal) => do
    let rs ← K.yamlUnmarshal (metricsYAML K asVal)
    setOutputAndClean P T valPath (outPath ++ ".metrics") rs valueTree cpSpecTree true
  | _ => .ok ⟨valueTree, cpSpecTree, [], []⟩

def translateHPASpec (valMap : List (String × String)) (inPath outPath : String) (value : Node)
    (valueTree cpSpecTree : Tree) : Except String (Translated Tree) :=
  match value with
  | .scalar (.bool asEnabled) =>
    if !asEnabled then .ok ⟨valueTree, cpSpecTree, [], []⟩
    else do
      let newPS := P.pathString (K.pathFromString inPath).dropLast
      let r ← translateHPABounds P T newPS outPath valMap valueTree cpSpecTree
      let valPath := newPS ++ ".cpu.targetAverageUtilization"
      let r' ← translateHPAMetrics P T K valPath outPath r.valueTree r.cpSpecTree
      let st ← K.yamlUnmarshal (scaleTargetRefYAML (hpaDeploymentPath P K inPath))
      let r'' ← setOutputAndClean P T valPath (outPath ++ ".scaleTargetRef") st r'.valueTree
        r'.cpSpecTree false
      pure ((r.append r').append r'')
  | v => .error ("expect autoscaleEnabled node type to be bool but got: " ++ K.typeName v)

/-- The `switch` of `translateK8sTree` on the setting's name: an HPA switch's value decides what
`translateHPASpec` writes, any other value is written. -/
def translateK8sSetting (valMap : List (String × String)) (inPath outPath : String) (m : Node)
    (valueTree cpSpecTree : Tree) : Except String (Translated Tree) :=
  let k8sSettingName := (K.pathFromString inPath).getLastD ""
  let written := [P.toYAMLPath inPath]
  match k8sSettingName with
  | "autoscaleEnabled" =>
    (translateHPASpec P T K valMap inPath outPath m valueTree cpSpecTree).mapError
      ("error in translating K8s HPA spec: " ++ ·)
  | "env" =>
    ((translateEnv P T K outPath m cpSpecTree).map (⟨valueTree, ·, [], written⟩)).mapError
      ("error in translating k8s Env: " ++ ·)
  | "rollingMaxSurge" | "rollingMaxUnavailable" =>
    ((translateStrategy P T k8sSettingName outPath m cpSpecTree).map
      (⟨valueTree, ·, [], written⟩)).mapError ("error in translating k8s Strategy: " ++ ·)
  | _ => (T.writeNode cpSpecTree (P.toYAMLPath outPath) m).map (⟨valueTree, ·, [], written⟩)

def translateK8sTree (valMap : List (String × String)) :
    List (String × Translation) → Tree → Tree → Except String (Translated Tree)
  | [], valueTree, cpSpecTree => .ok ⟨valueTree, cpSpecTree, [], []⟩
  | (inPath, v) :: rest, valueTree, cpSpecTree =>
    match T.getFromTreePath valueTree (P.toYAMLPath inPath) with
    | .error err => .error err
    | .ok none => translateK8sTree valMap rest valueTree cpSpecTree
    | .ok (some m) =>
      if m.isEmptyString then translateK8sTree valMap rest valueTree cpSpecTree
      else if T.toIntValue m = some 0 then translateK8sTree valMap rest valueTree cpSpecTree
      else do
        let r ← translateK8sSetting P T K valMap inPath v.outPath m valueTree cpSpecTree
        let valueTree ← T.deleteFromTree r.valueTree (P.toYAMLPath inPath)
        let r' ← translateK8sTree valMap rest valueTree r.cpSpecTree
        pure ⟨r'.valueTree, r'.cpSpecTree, r.moved ++ P.toYAMLPath inPath :: r'.moved,
          r.written ++ r'.written⟩

def gatewayPathMapping : GoMap String String :=
  ((∅ : GoMap String String).insert "gateways.istio-ingressgateway" K.ingressComponentName).insert
    "gateways.istio-egressgateway" K.egressComponentName

def translateGateway (valMap : List (String × String))
    (ingressMapping egressMapping : List (String × Translation)) :
    List (String × String) → Tree → Tree → Except String (Translated Tree)
  | [], valueSpec, root => .ok ⟨valueSpec, root, [], []⟩
  | (inPath, outPath) :: rest, valueSpec, root => do
    let (enabled, pathExist) ← K.isComponentEnabledFromValue outPath valueSpec
    if !pathExist && !enabled then translateGateway valMap ingressMapping egressMapping rest valueSpec root
    else
      let gwSpec : Tree :=
        [("enabled", .scalar (.bool enabled)), ("name", .scalar (.string ((P.toYAMLPath inPath).getD 1 "")))]
      let r ← (if enabled then
          translateK8sTree P T K valMap
            (if outPath = K.egressComponentName then egressMapping else ingressMapping) valueSpec gwSpec
        else pure ⟨valueSpec, gwSpec, [], []⟩)
      let root ← T.writeNode root (P.toYAMLPath ("Components." ++ outPath))
        (.list [.map r.cpSpecTree])
      let r' ← translateGateway valMap ingressMapping egressMapping rest r.valueTree root
      pure ⟨r'.valueTree, r'.cpSpecTree, r.moved ++ r'.moved, r.written ++ r'.written⟩

structure K8sMappings where
  kubernetesMapping : GoMap String Translation
  ingressMapping : GoMap String Translation
  egressMapping : GoMap String Translation

def componentK8sMapping (valKey componentName : String) :
    List (String × String) → GoMap String Translation → Except String (GoMap String Translation)
  | [], m => .ok m
  | (k8sValKey, outPathTmpl) :: rest, m => do
    let newKey ← renderComponentName K k8sValKey valKey
    let outPathTmpl := if isAddon N K componentName then "Addon" ++ outPathTmpl else outPathTmpl
    let newVal ← K.renderFeatureComponentPathTemplate outPathTmpl componentName
    componentK8sMapping valKey componentName rest (m.insert newKey ⟨newVal⟩)

def gatewayK8sMapping (valKey : String) :
    List (String × String) → GoMap String Translation → Except String (GoMap String Translation)
  | [], m => .ok m
  | (k8sValKey, outPathTmpl) :: rest, m => do
    let newKey ← renderComponentName K k8sValKey valKey
    let newP := K.pathFromString outPathTmpl
    gatewayK8sMapping valKey rest (m.insert newKey ⟨P.pathString (newP.drop (newP.length - 2))⟩)

variable (R : RangeOrder)

def initK8SMapping (valuesToComponentName kubernetesPatternMapping : GoMap String String)
    (valueTree : Tree) : Except String K8sMappings := do
  let kubernetesMapping ← (R.range valuesToComponentName).foldlM (fun m x ↦ do
      let (cnEnabled, _) ← K.isComponentEnabledFromValue x.2 valueTree
      if !cnEnabled then pure m
      else componentK8sMapping N K x.1 x.2 (R.range kubernetesPatternMapping) m) ∅
  let gws ← (R.range (gatewayPathMapping K)).foldlM (fun gws x ↦ do
      let (cnEnabled, _) ← K.isComponentEnabledFromValue x.2 valueTree
      if !cnEnabled then pure gws
      else if x.2 = K.egressComponentName then
        (gws.1, ·) <$> gatewayK8sMapping P K x.1 (R.range kubernetesPatternMapping) gws.2
      else (·, gws.2) <$> gatewayK8sMapping P K x.1 (R.range kubernetesPatternMapping) gws.1)
    ((∅, ∅) : GoMap String Translation × GoMap String Translation)
  pure ⟨kubernetesMapping, gws.1, gws.2⟩

/-- `TranslateTree`: the enablements, the API mapping, the Kubernetes mapping, the gateways,
then every value left, each error wrapped as the source wraps it. -/
def TranslateTree (t : ReverseTranslator) (kubernetesPatternMapping : GoMap String String)
    (valueTree cpSpecTree : Tree) : Except String (Translated Tree) := do
  let cpSpecTree ← (setEnablementFromValue N P T K valueTree
      ((R.range t.valuesToComponentName).map (·.2)) cpSpecTree).mapError
    ("error when translating enablement and namespace from value.yaml tree: " ++ ·)
  let r ← (translateTree P T (R.range t.apiMapping) valueTree cpSpecTree).mapError
    ("error when translating value.yaml tree with global mapping: " ++ ·)
  let m ← (initK8SMapping N P K R t.valuesToComponentName kubernetesPatternMapping
      r.valueTree).mapError ("error when initiating k8s mapping: " ++ ·)
  let r' ← (translateK8sTree P T K (R.range hpaValMap) (R.range m.kubernetesMapping) r.valueTree
      r.cpSpecTree).mapError ("error when translating value.yaml tree with kubernetes mapping: " ++ ·)
  let r'' ← (translateGateway P T K (R.range hpaValMap) (R.range m.ingressMapping)
      (R.range m.egressMapping) (R.range (gatewayPathMapping K)) r'.valueTree r'.cpSpecTree).mapError
    ("error when translating gateway from value.yaml tree: " ++ ·)
  let cpSpecTree ← (translateRemainingPaths t P T.writeNode r''.valueTree r''.cpSpecTree []).mapError
    ("error when translating remaining path: " ++ ·)
  pure ⟨r''.valueTree, cpSpecTree, r.moved ++ r'.moved ++ r''.moved,
    r.written ++ r'.written ++ r''.written⟩

end Translate

section Deletes

/-- A path `translateK8sTree` deletes without writing its value: an HPA switch. -/
def IsHPASwitch (P : PathOps) (K : K8sOps) (p : List String) : Prop :=
  ∃ inPath, p = P.toYAMLPath inPath ∧ (K.pathFromString inPath).getLastD "" = "autoscaleEnabled"

/-- Every path whose value was written is moved, and every moved path was written unless it is
an HPA switch. -/
def Accounted (P : PathOps) (K : K8sOps) (moved written : List (List String)) : Prop :=
  (∀ p ∈ written, p ∈ moved) ∧ ∀ p ∈ moved, p ∈ written ∨ IsHPASwitch P K p

def Leaves (T : TreeOps Tree) (P : PathOps) (K : K8sOps) (valueTree : Tree) (r : Translated Tree) :
    Prop :=
  DeleteChain T valueTree r.valueTree r.moved ∧ Accounted P K r.moved r.written

variable {P : PathOps} {T : TreeOps Tree} {K : K8sOps}

theorem Accounted.append {moved written moved' written' : List (List String)}
    (h : Accounted P K moved written) (h' : Accounted P K moved' written') :
    Accounted P K (moved ++ moved') (written ++ written') := by
  refine ⟨fun p hp ↦ ?_, fun p hp ↦ ?_⟩
  · rw [List.mem_append] at hp ⊢
    exact hp.imp (h.1 p) (h'.1 p)
  · rw [List.mem_append] at hp ⊢
    rcases hp with hp | hp
    · exact (h.2 p hp).imp_left .inl
    · exact (h'.2 p hp).imp_left .inr

theorem Accounted.self (moved : List (List String)) : Accounted P K moved moved :=
  ⟨fun _ hp ↦ hp, fun _ hp ↦ .inl hp⟩

theorem Leaves.nil (valueTree cpSpecTree : Tree) :
    Leaves T P K valueTree ⟨valueTree, cpSpecTree, [], []⟩ :=
  ⟨.nil _, Accounted.self []⟩

theorem Leaves.append {valueTree : Tree} {r r' : Translated Tree} (h : Leaves T P K valueTree r)
    (h' : Leaves T P K r.valueTree r') : Leaves T P K valueTree (r.append r') :=
  ⟨h.1.append h'.1, h.2.append h'.2⟩

theorem setOutputAndClean_leaves {valPath outPath : String} {outVal : Node}
    {valueTree cpSpecTree : Tree} {clean : Bool} {r : Translated Tree}
    (h : setOutputAndClean P T valPath outPath outVal valueTree cpSpecTree clean = .ok r) :
    Leaves T P K valueTree r := by
  unfold setOutputAndClean at h
  obtain ⟨_, -, h⟩ := bind_eq_ok.mp h
  cases clean
  · cases h
    exact .nil _ _
  · obtain ⟨_, hvt, h⟩ := bind_eq_ok.mp h
    cases h
    exact ⟨.single hvt, Accounted.self _⟩

theorem translateHPABounds_leaves (newPS outPath : String) :
    ∀ (valMap : List (String × String)) (valueTree cpSpecTree : Tree) {r : Translated Tree},
      translateHPABounds P T newPS outPath valMap valueTree cpSpecTree = .ok r →
      Leaves T P K valueTree r
  | [], _, _, _, h => by
    cases h
    exact .nil _ _
  | (key, newVal) :: rest, valueTree, cpSpecTree, _, h => by
    unfold translateHPABounds at h
    split at h
    · obtain ⟨r, hr, h⟩ := bind_eq_ok.mp h
      obtain ⟨r', hr', h⟩ := bind_eq_ok.mp h
      cases h
      exact (setOutputAndClean_leaves hr).append
        (translateHPABounds_leaves newPS outPath rest _ _ hr')
    · exact translateHPABounds_leaves newPS outPath rest _ _ h

theorem translateHPAMetrics_leaves {valPath outPath : String}
    {valueTree cpSpecTree : Tree} {r : Translated Tree}
    (h : translateHPAMetrics P T K valPath outPath valueTree cpSpecTree = .ok r) :
    Leaves T P K valueTree r := by
  unfold translateHPAMetrics at h
  split at h
  · obtain ⟨_, -, h⟩ := bind_eq_ok.mp h
    exact setOutputAndClean_leaves h
  · cases h
    exact .nil _ _

theorem translateHPASpec_leaves {valMap : List (String × String)}
    {inPath outPath : String} {value : Node} {valueTree cpSpecTree : Tree} {r : Translated Tree}
    (h : translateHPASpec P T K valMap inPath outPath value valueTree cpSpecTree = .ok r) :
    Leaves T P K valueTree r := by
  unfold translateHPASpec at h
  split at h
  · split_ifs at h
    · cases h
      exact .nil _ _
    · obtain ⟨r₁, hr₁, h⟩ := bind_eq_ok.mp h
      obtain ⟨r₂, hr₂, h⟩ := bind_eq_ok.mp h
      obtain ⟨_, -, h⟩ := bind_eq_ok.mp h
      obtain ⟨r₃, hr₃, h⟩ := bind_eq_ok.mp h
      cases h
      exact ((translateHPABounds_leaves _ _ _ _ _ hr₁).append
        (translateHPAMetrics_leaves hr₂)).append (setOutputAndClean_leaves hr₃)
  · cases h

theorem translateK8sSetting_leaves {valMap : List (String × String)}
    {inPath outPath : String} {m : Node} {valueTree cpSpecTree : Tree} {r : Translated Tree}
    (h : translateK8sSetting P T K valMap inPath outPath m valueTree cpSpecTree = .ok r) :
    DeleteChain T valueTree r.valueTree r.moved ∧
      Accounted P K (r.moved ++ [P.toYAMLPath inPath]) r.written := by
  unfold translateK8sSetting at h
  dsimp only at h
  split at h
  next hname =>
    obtain ⟨hd, hacc⟩ := translateHPASpec_leaves (mapError_eq_ok.mp h)
    have hswitch : Accounted P K [P.toYAMLPath inPath] [] :=
      ⟨fun _ hp ↦ absurd hp (List.not_mem_nil _),
        fun _ hp ↦ .inr ⟨inPath, List.mem_singleton.mp hp, hname⟩⟩
    exact ⟨hd, by simpa using hacc.append hswitch⟩
  iterate 3
    obtain ⟨_, -, rfl⟩ := map_eq_ok.mp (mapError_eq_ok.mp h)
    exact ⟨.nil _, Accounted.self _⟩
  · obtain ⟨_, -, rfl⟩ := map_eq_ok.mp h
    exact ⟨.nil _, Accounted.self _⟩

theorem translateK8sTree_leaves (valMap : List (String × String)) :
    ∀ (mapping : List (String × Translation)) (valueTree cpSpecTree : Tree)
      {r : Translated Tree}, translateK8sTree P T K valMap mapping valueTree cpSpecTree = .ok r →
      Leaves T P K valueTree r
  | [], _, _, _, h => by
    cases h
    exact .nil _ _
  | (inPath, v) :: rest, valueTree, cpSpecTree, _, h => by
    unfold translateK8sTree at h
    split at h
    · cases h
    · exact translateK8sTree_leaves valMap rest _ _ h
    · split_ifs at h
      · exact translateK8sTree_leaves valMap rest _ _ h
      · exact translateK8sTree_leaves valMap rest _ _ h
      · obtain ⟨r, hr, h⟩ := bind_eq_ok.mp h
        obtain ⟨vt, hvt, h⟩ := bind_eq_ok.mp h
        obtain ⟨r', hr', h⟩ := bind_eq_ok.mp h
        cases h
        obtain ⟨hd, hacc⟩ := translateK8sSetting_leaves hr
        obtain ⟨hd', hacc'⟩ := translateK8sTree_leaves valMap rest _ _ hr'
        refine ⟨hd.append (.cons hvt hd'), ?_⟩
        simpa using hacc.append hacc'

theorem translateGateway_leaves (valMap : List (String × String))
    (ingressMapping egressMapping : List (String × Translation)) :
    ∀ (gateways : List (String × String)) (valueSpec root : Tree) {r : Translated Tree},
      translateGateway P T K valMap ingressMapping egressMapping gateways valueSpec root = .ok r →
      Leaves T P K valueSpec r
  | [], _, _, _, h => by
    cases h
    exact .nil _ _
  | (inPath, outPath) :: rest, valueSpec, root, _, h => by
    unfold translateGateway at h
    obtain ⟨⟨enabled, pathExist⟩, -, h⟩ := bind_eq_ok.mp h
    dsimp only at h
    by_cases hskip : (!pathExist && !enabled) = true
    · rw [if_pos hskip] at h
      exact translateGateway_leaves valMap ingressMapping egressMapping rest _ _ h
    · rw [if_neg hskip] at h
      obtain ⟨r, hr, h⟩ := bind_eq_ok.mp h
      obtain ⟨_, -, h⟩ := bind_eq_ok.mp h
      obtain ⟨r', hr', h⟩ := bind_eq_ok.mp h
      cases h
      have hgw : Leaves T P K valueSpec r := by
        split at hr
        · exact translateK8sTree_leaves valMap _ _ _ hr
        · cases hr
          exact .nil _ _
      exact hgw.append (translateGateway_leaves valMap ingressMapping egressMapping rest _ _ hr')

theorem TranslateTree_leaves {N : ComponentNames} {R : RangeOrder} {t : ReverseTranslator}
    {kubernetesPatternMapping : GoMap String String} {valueTree cpSpecTree : Tree}
    {r : Translated Tree}
    (h : TranslateTree N P T K R t kubernetesPatternMapping valueTree cpSpecTree = .ok r) :
    Leaves T P K valueTree r ∧
      ∃ cpSpecTree₀, (remaining t P r.valueTree []).foldlM (writeRemaining P T.writeNode)
        cpSpecTree₀ = .ok r.cpSpecTree := by
  unfold TranslateTree at h
  obtain ⟨_, -, h⟩ := bind_eq_ok.mp h
  obtain ⟨r₁, hr₁, h⟩ := bind_eq_ok.mp h
  obtain ⟨_, -, h⟩ := bind_eq_ok.mp h
  obtain ⟨r₂, hr₂, h⟩ := bind_eq_ok.mp h
  obtain ⟨r₃, hr₃, h⟩ := bind_eq_ok.mp h
  obtain ⟨_, hc, h⟩ := bind_eq_ok.mp h
  cases h
  obtain ⟨hd₁, hw₁⟩ := translateTree_deletes P T _ _ _ (mapError_eq_ok.mp hr₁)
  have h₁ : Leaves T P K valueTree r₁ := ⟨hd₁, by rw [hw₁]; exact Accounted.self _⟩
  refine ⟨(h₁.append (translateK8sTree_leaves _ _ _ _ (mapError_eq_ok.mp hr₂))).append
    (translateGateway_leaves _ _ _ _ _ _ (mapError_eq_ok.mp hr₃)), r₃.cpSpecTree, ?_⟩
  rw [← translateRemainingPaths_eq]
  exact mapError_eq_ok.mp hc

/-- `TranslateTree` loses no value it did not move: the catch-all walk copies every leaf of the
original values tree outside the moved paths. -/
theorem TranslateTree_copies_every_unmoved_value {N : ComponentNames} {R : RangeOrder}
    (hkeep : T.KeepsOthers) {t : ReverseTranslator} {kubernetesPatternMapping : GoMap String String}
    {valueTree cpSpecTree valueTree' cpSpecTree' : Tree} {moved written : List (List String)}
    (h : TranslateTree N P T K R t kubernetesPatternMapping valueTree cpSpecTree =
      .ok ⟨valueTree', cpSpecTree', moved, written⟩) :
    (∃ cpSpecTree₀, (remaining t P valueTree' []).foldlM (writeRemaining P T.writeNode) cpSpecTree₀ =
        .ok cpSpecTree') ∧
      ∀ q v, (q, v) ∈ remaining t P valueTree [] → (∀ p ∈ moved, ¬ p <+: q) →
        (q, v) ∈ remaining t P valueTree' [] := by
  obtain ⟨⟨hd, -⟩, hc⟩ := TranslateTree_leaves h
  exact ⟨hc, remaining_of_keeps t P (hd.keeps hkeep)⟩

end Deletes

def fillComponentName (cn : String) : List String → List String
  | "\x7b\x7b" :: "ComponentName\x7d\x7d" :: rest => cn :: fillComponentName cn rest
  | e :: rest => e :: fillComponentName cn rest
  | [] => []

/-- Stand-ins for the helpers: only `Pilot` enabled, every component core, YAML kept as text. -/
def standInK8sOps : K8sOps where
  pathFromString s := split s '.'
  renderTemplate tmpl v := .ok (v ++ tmpl)
  renderFeatureComponentPathTemplate tmpl cn := .ok (join (fillComponentName cn (split tmpl '.')) ".")
  isComponentEnabledFromValue cn _ := .ok (cn == "Pilot", cn == "Pilot")
  isCoreComponent _ := true
  ingressComponentName := "IngressGateways"
  egressComponentName := "EgressGateways"
  typeName _ := "string"
  formatValue _ := ""
  formatFloat _ := "80.000000"
  yamlUnmarshal s := .ok (.scalar (.string s))

def entriesOrder : RangeOrder := ⟨fun m ↦ m.entries.map fun e ↦ (e.1, e.2)⟩

/-- A hub the API mapping moves, a pilot HPA switch, and a pilot setting left for `Values`. -/
def pilotValues : Tree :=
  [("global", .map [("hub", .scalar (.string "docker.io/istio"))]),
    ("pilot", .map [("autoscaleEnabled", .scalar (.bool true)), ("traceSampling", .scalar (.number "1"))])]

def hpaPattern : GoMap String String :=
  (∅ : GoMap String String).insert ".autoscaleEnabled" "Components.\x7b\x7b.ComponentName\x7d\x7d.K8s.HpaSpec"

def pilotValuesLeft : Tree :=
  [("global", .map [("hub", .null)]),
    ("pilot", .map [("autoscaleEnabled", .null), ("traceSampling", .scalar (.number "1"))])]

def pilotOutput : Tree :=
  [("Components", .map [("Pilot", .map [("Enabled", .scalar (.bool true)),
      ("K8s", .map [("HpaSpec", .map [("scaleTargetRef", .scalar (.string (scaleTargetRefYAML "pilot")))])])])]),
    ("Hub", .scalar (.string "docker.io/istio")),
    ("Values", .map [("pilot", .map [("traceSampling", .scalar (.number "1"))])])]

def pilotMoved : List (List String) := [["global", "hub"], ["pilot", "autoscaleEnabled"]]

def pilotWritten : List (List String) := [["global", "hub"]]

theorem pilotValues_traceSampling_copied :
    standInTreeOps.KeepsOthers ∧
      TranslateTree sampleComponentNames dottedPathOps standInTreeOps standInK8sOps entriesOrder
          (initAPIAndComponentMapping sampleComponentNames sampleTranslator) hpaPattern pilotValues [] =
        .ok ⟨pilotValuesLeft, pilotOutput, pilotMoved, pilotWritten⟩ ∧
      (∃ cpSpecTree₀, (remaining (initAPIAndComponentMapping sampleComponentNames sampleTranslator)
          dottedPathOps pilotValuesLeft []).foldlM (writeRemaining dottedPathOps standInTreeOps.writeNode)
            cpSpecTree₀ = .ok pilotOutput) ∧
      ∀ q v, (q, v) ∈ remaining (initAPIAndComponentMapping sampleComponentNames sampleTranslator)
          dottedPathOps pilotValues [] → (∀ p ∈ pilotMoved, ¬ p <+: q) →
        (q, v) ∈ remaining (initAPIAndComponentMapping sampleComponentNames sampleTranslator)
          dottedPathOps pilotValuesLeft [] :=
  have h : TranslateTree sampleComponentNames dottedPathOps standInTreeOps standInK8sOps entriesOrder
      (initAPIAndComponentMapping sampleComponentNames sampleTranslator) hpaPattern pilotValues [] =
    .ok ⟨pilotValuesLeft, pilotOutput, pilotMoved, pilotWritten⟩ := rfl
  ⟨standInTreeOps_keepsOthers, h, TranslateTree_copies_every_unmoved_value standInTreeOps_keepsOthers h⟩

end IstioControlPlane.Operator.TranslateK8s
