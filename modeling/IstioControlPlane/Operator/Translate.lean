import IstioControlPlane.Go

namespace IstioControlPlane.Operator.Translate

open Go

/-- A leaf of the untyped tree: `ghodss/yaml` reads YAML through JSON, so a leaf is a string, a
bool or a `float64`, the last kept as the text `%v` prints for it. -/
inductive Scalar where
  | string (s : String)
  | bool (b : Bool)
  | number (text : String)
  deriving DecidableEq, Repr

/-- The untyped tree `yaml.Unmarshal` builds, a map's entries in the order a `range` visits them. -/
inductive Node where
  | null
  | map (entries : List (String × Node))
  | list (items : List Node)
  | scalar (value : Scalar)
  deriving Repr

def specialComponentPath : List String :=
  ["mixer", "mixer.policy", "mixer.telemetry", "gateways", "gateways.istio-ingressgateway",
    "gateways.istio-egressgateway"]

structure Translation where
  outPath : String
  deriving DecidableEq

structure ComponentMap where
  toHelmValuesTreeRoot : String
  skipReverseTranslate : Bool
  deriving DecidableEq

/-- What the reverse translator reads of the `name` package, which is not part of this model. -/
structure ComponentNames where
  istioBaseComponentName : String
  istioOperatorComponentName : String
  istioOperatorCustomResourceName : String
  cniComponentName : String
  isGateway : String → Bool

def ComponentNames.skipTranslate (N : ComponentNames) : List String :=
  [N.istioBaseComponentName, N.istioOperatorComponentName, N.istioOperatorCustomResourceName,
    N.cniComponentName]

structure Translator where
  apiMapping : List (String × Translation)
  componentMaps : List (String × ComponentMap)

structure ReverseTranslator where
  apiMapping : GoMap String Translation
  valuesToComponentName : GoMap String String

/-- The test a component passes before its values root is mapped back to it; gateways have
`translateGateway` instead. -/
def ComponentNames.reverseTranslated (N : ComponentNames) (cn : String) (cm : ComponentMap) :
    Bool :=
  !N.skipTranslate.contains cn && !cm.skipReverseTranslate && !N.isGateway cn

def initAPIAndComponentMapping (N : ComponentNames) (ts : Translator) : ReverseTranslator where
  apiMapping := ts.apiMapping.foldl (fun m x ↦ m.insert x.2.outPath ⟨x.1⟩) ∅
  valuesToComponentName := ts.componentMaps.foldl
    (fun m x ↦ if N.reverseTranslated x.1 x.2 then m.insert x.2.toHelmValuesTreeRoot x.1 else m) ∅

theorem lookup_insert_outPath (outPath : String) (m : GoMap String Translation)
    (x : String × Translation) :
    (m.insert x.2.outPath ⟨x.1⟩).lookup outPath =
      if decide (x.2.outPath = outPath) then some ⟨x.1⟩ else m.lookup outPath := by
  simp only [decide_eq_true_eq]
  exact GoMap.lookup_insert_ite _ _ _ _

theorem lookup_insert_reverseTranslated (N : ComponentNames) (root : String)
    (m : GoMap String String) (x : String × ComponentMap) :
    (if N.reverseTranslated x.1 x.2 then m.insert x.2.toHelmValuesTreeRoot x.1 else m).lookup root =
      if N.reverseTranslated x.1 x.2 && decide (x.2.toHelmValuesTreeRoot = root) then some x.1
      else m.lookup root := by
  cases N.reverseTranslated x.1 x.2
  · rfl
  · simp only [if_true, Bool.true_and, decide_eq_true_iff]
    exact GoMap.lookup_insert_ite _ _ _ _

/-- `initAPIAndComponentMapping` inverts the translator's maps in every `range` order, when no
two API paths share an output path and no two components share a values root. -/
theorem initAPIAndComponentMapping_inverts (N : ComponentNames) (ts : Translator)
    (hapi : ∀ a ∈ ts.apiMapping, ∀ b ∈ ts.apiMapping, a.2.outPath = b.2.outPath → a.1 = b.1)
    (hcomp : ∀ a ∈ ts.componentMaps, ∀ b ∈ ts.componentMaps, N.reverseTranslated a.1 a.2 →
      N.reverseTranslated b.1 b.2 → a.2.toHelmValuesTreeRoot = b.2.toHelmValuesTreeRoot →
        a.1 = b.1) :
    (∀ outPath valKey, (initAPIAndComponentMapping N ts).apiMapping.lookup outPath = some ⟨valKey⟩ ↔
        ∃ t, (valKey, t) ∈ ts.apiMapping ∧ t.outPath = outPath) ∧
      ∀ root cn, (initAPIAndComponentMapping N ts).valuesToComponentName.lookup root = some cn ↔
        ∃ cm, (cn, cm) ∈ ts.componentMaps ∧ N.reverseTranslated cn cm ∧
          cm.toHelmValuesTreeRoot = root := by
  constructor
  · intro outPath valKey
    rw [initAPIAndComponentMapping, GoMap.lookup_foldl_eq_some_iff (lookup_insert_outPath outPath)
      fun a ha b hb hpa hpb ↦ congrArg Translation.mk (hapi a ha b hb
        ((of_decide_eq_true hpa).trans (of_decide_eq_true hpb).symm))]
    simp only [decide_eq_true_eq, Translation.mk.injEq, Prod.exists]
    constructor
    · rintro ⟨_, t, h, ht, rfl⟩
      exact ⟨t, h, ht⟩
    · rintro ⟨t, h, ht⟩
      exact ⟨_, t, h, ht, rfl⟩
  · intro root cn
    rw [initAPIAndComponentMapping, GoMap.lookup_foldl_eq_some_iff
      (lookup_insert_reverseTranslated N root) fun a ha b hb hpa hpb ↦ by
        simp only [Bool.and_eq_true, decide_eq_true_eq] at hpa hpb
        exact hcomp a ha b hb hpa.1 hpb.1 (hpa.2.trans hpb.2.symm)]
    simp only [Bool.and_eq_true, decide_eq_true_eq, Prod.exists]
    constructor
    · rintro ⟨_, cm, h, hr, rfl⟩
      exact ⟨cm, h, hr⟩
    · rintro ⟨cm, h, hr⟩
      exact ⟨_, cm, h, hr, rfl⟩

def sampleComponentNames : ComponentNames :=
  ⟨"Base", "IstioOperator", "IstioOperatorCustomResource", "Cni",
    fun cn ↦ cn = "IngressGateways" || cn = "EgressGateways"⟩

def sampleTranslator : Translator :=
  ⟨[("Hub", ⟨"global.hub"⟩), ("Tag", ⟨"global.tag"⟩)],
    [("Pilot", ⟨"pilot", false⟩), ("Base", ⟨"base", false⟩),
      ("IngressGateways", ⟨"gateways.istio-ingressgateway", false⟩)]⟩

theorem sampleTranslator_inverted :
    (∀ a ∈ sampleTranslator.apiMapping, ∀ b ∈ sampleTranslator.apiMapping,
      a.2.outPath = b.2.outPath → a.1 = b.1) ∧
    (∀ a ∈ sampleTranslator.componentMaps, ∀ b ∈ sampleTranslator.componentMaps,
      sampleComponentNames.reverseTranslated a.1 a.2 →
        sampleComponentNames.reverseTranslated b.1 b.2 →
          a.2.toHelmValuesTreeRoot = b.2.toHelmValuesTreeRoot → a.1 = b.1) ∧
    (∀ outPath valKey,
      (initAPIAndComponentMapping sampleComponentNames sampleTranslator).apiMapping.lookup outPath =
          some ⟨valKey⟩ ↔
        ∃ t, (valKey, t) ∈ sampleTranslator.apiMapping ∧ t.outPath = outPath) ∧
    ∀ root cn,
      (initAPIAndComponentMapping sampleComponentNames sampleTranslator).valuesToComponentName.lookup
          root = some cn ↔
        ∃ cm, (cn, cm) ∈ sampleTranslator.componentMaps ∧
          sampleComponentNames.reverseTranslated cn cm ∧ cm.toHelmValuesTreeRoot = root :=
  have hapi : ∀ a ∈ sampleTranslator.apiMapping, ∀ b ∈ sampleTranslator.apiMapping,
      a.2.outPath = b.2.outPath → a.1 = b.1 := by decide
  have hcomp : ∀ a ∈ sampleTranslator.componentMaps, ∀ b ∈ sampleTranslator.componentMaps,
      sampleComponentNames.reverseTranslated a.1 a.2 →
        sampleComponentNames.reverseTranslated b.1 b.2 →
          a.2.toHelmValuesTreeRoot = b.2.toHelmValuesTreeRoot → a.1 = b.1 := by decide
  ⟨hapi, hcomp, initAPIAndComponentMapping_inverts _ _ hapi hcomp⟩

structure PathOps where
  pathString : List String → String
  toYAMLPath : String → List String

section Walk

variable (t : ReverseTranslator) (P : PathOps) {Out : Type}
  (writeNode : Out → List String → Node → Except String Out)

def ReverseTranslator.isEnablementPath (path : List String) : Bool :=
  if path.length < 2 || path.getLast? != some "enabled" then false
  else
    let pf := P.pathString path.dropLast
    specialComponentPath.contains pf || pf ∈ t.valuesToComponentName

mutual

/-- `translateRemainingPaths`, with `tpath.WriteNode` on the output tree as `writeNode`. -/
def translateRemainingPaths : List (String × Node) → Out → List String → Except String Out
  | [], cpSpecTree, _ => .ok cpSpecTree
  | (key, val) :: rest, cpSpecTree, path => do
    let cpSpecTree ← translateRemainingNode (path ++ [key]) val cpSpecTree
    translateRemainingPaths rest cpSpecTree path

def translateRemainingNode (newPath : List String) : Node → Out → Except String Out
  | .null, cpSpecTree => .ok cpSpecTree
  | .map node, cpSpecTree => translateRemainingPaths node cpSpecTree newPath
  | .list items, cpSpecTree =>
    writeNode cpSpecTree (P.toYAMLPath ("Values." ++ P.pathString newPath)) (.list items)
  | .scalar value, cpSpecTree =>
    if t.isEnablementPath P newPath then .ok cpSpecTree
    else writeNode cpSpecTree (P.toYAMLPath ("Values." ++ P.pathString newPath)) (.scalar value)

end

mutual

def remaining : List (String × Node) → List String → List (List String × Node)
  | [], _ => []
  | (key, val) :: rest, path => remainingNode (path ++ [key]) val ++ remaining rest path

def remainingNode (newPath : List String) : Node → List (List String × Node)
  | .null => []
  | .map node => remaining node newPath
  | .list items => [(newPath, .list items)]
  | .scalar value => if t.isEnablementPath P newPath then [] else [(newPath, .scalar value)]

end

def writeRemaining (cpSpecTree : Out) (x : List String × Node) : Except String Out :=
  writeNode cpSpecTree (P.toYAMLPath ("Values." ++ P.pathString x.1)) x.2

mutual

theorem translateRemainingPaths_eq :
    ∀ (valueTree : List (String × Node)) (cpSpecTree : Out) (path : List String),
      translateRemainingPaths t P writeNode valueTree cpSpecTree path =
        (remaining t P valueTree path).foldlM (writeRemaining P writeNode) cpSpecTree
  | [], _, _ => rfl
  | (key, val) :: rest, cpSpecTree, path => by
    rw [translateRemainingPaths, remaining, List.foldlM_append,
      translateRemainingNode_eq (path ++ [key]) val cpSpecTree]
    exact congrArg _ (funext fun o ↦ translateRemainingPaths_eq rest o path)

theorem translateRemainingNode_eq :
    ∀ (newPath : List String) (val : Node) (cpSpecTree : Out),
      translateRemainingNode t P writeNode newPath val cpSpecTree =
        (remainingNode t P newPath val).foldlM (writeRemaining P writeNode) cpSpecTree
  | _, .null, _ => rfl
  | newPath, .map node, cpSpecTree => translateRemainingPaths_eq node cpSpecTree newPath
  | _, .list _, _ => (bind_pure _).symm
  | newPath, .scalar _, _ => by
    rw [translateRemainingNode, remainingNode]
    split_ifs
    · rfl
    · exact (bind_pure _).symm

end

/-- A node is reached from another along a path of keys through maps. -/
inductive Reaches : Node → List String → Node → Prop
  | refl (v : Node) : Reaches v [] v
  | down {entries key sub keys v} :
    (key, sub) ∈ entries → Reaches sub keys v → Reaches (.map entries) (key :: keys) v

/-- Whether `translateRemainingPaths` writes a node: a list, or a leaf other than an enablement
flag. -/
def Kept (path : List String) : Node → Prop
  | .list _ => True
  | .scalar _ => t.isEnablementPath P path = false
  | _ => False

section Reaches

variable {t P} {p keys : List String} {v : Node}

theorem Reaches.of_not_map {n : Node} (hn : ∀ e, n ≠ .map e) : Reaches n keys v ↔ keys = [] ∧ v = n :=
  ⟨by rintro (_ | ⟨_, _⟩); exacts [⟨rfl, rfl⟩, absurd rfl (hn _)], by rintro ⟨rfl, rfl⟩; exact .refl _⟩

theorem Reaches.not_map_nil (hk : Kept t P p v) : ¬ Reaches (.map []) keys v := by
  rintro (_ | ⟨h, -⟩)
  exacts [hk, List.not_mem_nil _ h]

theorem Reaches.map_cons {key : String} {val : Node} {rest : List (String × Node)}
    (hk : Kept t P p v) :
    Reaches (.map ((key, val) :: rest)) keys v ↔
      (∃ ks, keys = key :: ks ∧ Reaches val ks v) ∨ Reaches (.map rest) keys v := by
  constructor
  · rintro (_ | ⟨h, hr⟩)
    · exact (hk : False).elim
    · rcases List.mem_cons.mp h with h | h
      · cases h
        exact .inl ⟨_, rfl, hr⟩
      · exact .inr (.down h hr)
  · rintro (⟨ks, rfl, hr⟩ | (_ | ⟨h, hr⟩))
    · exact .down (List.mem_cons_self _ _) hr
    · exact (hk : False).elim
    · exact .down (List.mem_cons_of_mem _ h) hr

theorem exists_reaches_of_not_map {newPath : List String} {n : Node} (hn : ∀ e, n ≠ .map e) :
    (∃ keys, p = newPath ++ keys ∧ Reaches n keys v ∧ Kept t P p v) ↔
      p = newPath ∧ v = n ∧ Kept t P newPath n := by
  simp only [Reaches.of_not_map hn]
  constructor
  · rintro ⟨_, rfl, ⟨rfl, rfl⟩, hk⟩
    rw [List.append_nil] at hk ⊢
    exact ⟨rfl, rfl, hk⟩
  · rintro ⟨rfl, rfl, hk⟩
    exact ⟨[], (List.append_nil _).symm, ⟨rfl, rfl⟩, hk⟩

end Reaches

mutual

theorem mem_remaining :
    ∀ (valueTree : List (String × Node)) (path p : List String) (v : Node),
      (p, v) ∈ remaining t P valueTree path ↔
        ∃ keys, p = path ++ keys ∧ Reaches (.map valueTree) keys v ∧ Kept t P p v
  | [], _, _, _ => iff_of_false (List.not_mem_nil _) fun ⟨_, _, hr, hk⟩ ↦ Reaches.not_map_nil hk hr
  | (key, val) :: rest, path, p, v => by
    rw [remaining, List.mem_append, mem_remainingNode, mem_remaining rest path]
    constructor
    · rintro (⟨ks, rfl, hr, hk⟩ | ⟨ks, rfl, hr, hk⟩)
      · exact ⟨key :: ks, List.append_assoc _ _ _, (Reaches.map_cons hk).mpr (.inl ⟨ks, rfl, hr⟩), hk⟩
      · exact ⟨ks, rfl, (Reaches.map_cons hk).mpr (.inr hr), hk⟩
    · rintro ⟨keys, rfl, hr, hk⟩
      rcases (Reaches.map_cons hk).mp hr with ⟨ks, rfl, hv⟩ | hv
      · exact .inl ⟨ks, (List.append_assoc path [key] ks).symm, hv, hk⟩
      · exact .inr ⟨keys, rfl, hv, hk⟩

theorem mem_remainingNode :
    ∀ (newPath : List String) (val : Node) (p : List String) (v : Node),
      (p, v) ∈ remainingNode t P newPath val ↔
        ∃ keys, p = newPath ++ keys ∧ Reaches val keys v ∧ Kept t P p v
  | newPath, .map node, p, v => mem_remaining node newPath p v
  | _, .null, _, _ => by
    rw [exists_reaches_of_not_map fun _ ↦ Node.noConfusion]
    simp [remainingNode, Kept]
  | _, .list _, _, _ => by
    rw [exists_reaches_of_not_map fun _ ↦ Node.noConfusion]
    simp [remainingNode, Kept]
  | newPath, .scalar _, _, _ => by
    rw [exists_reaches_of_not_map fun _ ↦ Node.noConfusion, remainingNode]
    split_ifs with he <;> simp [Kept, he]

end

/-- The catch-all walk makes one `WriteNode` call per list and per leaf other than an enablement
flag that the values tree reaches, at `Values.` and its path, up to the first error. -/
theorem translateRemainingPaths_writes (valueTree : List (String × Node)) (cpSpecTree : Out)
    (path : List String) :
    translateRemainingPaths t P writeNode valueTree cpSpecTree path =
        (remaining t P valueTree path).foldlM (writeRemaining P writeNode) cpSpecTree ∧
      ∀ p v, (p, v) ∈ remaining t P valueTree path ↔
        ∃ keys, p = path ++ keys ∧ Reaches (.map valueTree) keys v ∧ Kept t P p v :=
  ⟨translateRemainingPaths_eq t P writeNode valueTree cpSpecTree path,
    mem_remaining t P valueTree path⟩

example :
    remaining ⟨∅, (∅ : GoMap String String).insert "pilot" "Pilot"⟩
        ⟨fun p ↦ join p ".", fun s ↦ split s '.'⟩
        [("pilot", .map [("enabled", .scalar (.bool true)), ("image", .scalar (.string "pilot"))])]
        [] =
      [(["pilot", "image"], .scalar (.string "pilot"))] := rfl

end Walk

/-- What the translations use of `tpath` and `util`, which are not part of this model. -/
structure TreeOps (Out : Type) where
  getFromTreePath : List (String × Node) → List String → Except String (Option Node)
  writeNode : Out → List String → Node → Except String Out
  deleteFromTree : List (String × Node) → List String → Except String (List (String × Node))
  toIntValue : Node → Option Int

def Node.isEmptyString : Node → Bool
  | .scalar (.string s) => s == ""
  | _ => false

/-- How a step changes the values tree: every leaf other than nil it reaches after was reached
before, and not under a moved path. Nil is what `DeleteFromTree` may leave at a deleted path. -/
def Shrinks (valueTree valueTree' : List (String × Node)) (moved : List (List String)) : Prop :=
  ∀ q v, (∀ e, v ≠ .map e) → v ≠ .null → Reaches (.map valueTree') q v →
    Reaches (.map valueTree) q v ∧ ∀ p ∈ moved, ¬ p <+: q

theorem Shrinks.refl (valueTree : List (String × Node)) : Shrinks valueTree valueTree [] :=
  fun _ _ _ _ hr ↦ ⟨hr, fun _ hp ↦ absurd hp (List.not_mem_nil _)⟩

theorem Shrinks.trans {valueTree valueTree' valueTree'' : List (String × Node)}
    {moved moved' : List (List String)} (h : Shrinks valueTree valueTree' moved)
    (h' : Shrinks valueTree' valueTree'' moved') : Shrinks valueTree valueTree'' (moved ++ moved') :=
  fun q v hv hn hr ↦
    have ⟨hr', hm'⟩ := h' q v hv hn hr
    have ⟨hr'', hm⟩ := h q v hv hn hr'
    ⟨hr'', fun p hp ↦ (List.mem_append.mp hp).elim (hm p) (hm' p)⟩

def Keeps (valueTree valueTree' : List (String × Node)) (moved : List (List String)) : Prop :=
  ∀ q v, (∀ e, v ≠ .map e) → Reaches (.map valueTree) q v → (∀ p ∈ moved, ¬ p <+: q) →
    Reaches (.map valueTree') q v

theorem Keeps.refl (valueTree : List (String × Node)) : Keeps valueTree valueTree [] :=
  fun _ _ _ hr _ ↦ hr

theorem Keeps.trans {valueTree valueTree' valueTree'' : List (String × Node)}
    {moved moved' : List (List String)} (h : Keeps valueTree valueTree' moved)
    (h' : Keeps valueTree' valueTree'' moved') : Keeps valueTree valueTree'' (moved ++ moved') :=
  fun q v hv hr hm ↦
    h' q v hv (h q v hv hr fun p hp ↦ hm p (List.mem_append_left _ hp))
      fun p hp ↦ hm p (List.mem_append_right _ hp)

/-- What `DeleteFromTree` must do for no value to be lost: a leaf outside the path stays. -/
def TreeOps.KeepsOthers {Out : Type} (T : TreeOps Out) : Prop :=
  ∀ tree path tree', T.deleteFromTree tree path = .ok tree' → Keeps tree tree' [path]

/-- What a step does to the values tree: it deletes these paths, one after another. -/
inductive DeleteChain {Out : Type} (T : TreeOps Out) :
    List (String × Node) → List (String × Node) → List (List String) → Prop
  | nil (valueTree : List (String × Node)) : DeleteChain T valueTree valueTree []
  | cons {valueTree valueTree' valueTree'' : List (String × Node)} {path : List String}
      {moved : List (List String)} :
      T.deleteFromTree valueTree path = .ok valueTree' → DeleteChain T valueTree' valueTree'' moved →
      DeleteChain T valueTree valueTree'' (path :: moved)

namespace DeleteChain

variable {Out : Type} {T : TreeOps Out} {valueTree valueTree' : List (String × Node)}
  {moved : List (List String)}

theorem single {path : List String} (h : T.deleteFromTree valueTree path = .ok valueTree') :
    DeleteChain T valueTree valueTree' [path] :=
  .cons h (.nil _)

theorem append {valueTree'' : List (String × Node)} {moved' : List (List String)}
    (h : DeleteChain T valueTree valueTree' moved) (h' : DeleteChain T valueTree' valueTree'' moved') :
    DeleteChain T valueTree valueTree'' (moved ++ moved') := by
  induction h with
  | nil => exact h'
  | cons hd _ ih => exact .cons hd (ih h')

theorem keeps (hkeep : T.KeepsOthers) (h : DeleteChain T valueTree valueTree' moved) :
    Keeps valueTree valueTree' moved := by
  induction h with
  | nil => exact Keeps.refl _
  | cons hd _ ih => exact (hkeep _ _ _ hd).trans ih

end DeleteChain

theorem Kept.not_map {t : ReverseTranslator} {P : PathOps} {p : List String} {v : Node}
    (hk : Kept t P p v) : ∀ e, v ≠ .map e := by
  rintro e rfl
  exact hk

theorem remaining_of_keeps (t : ReverseTranslator) (P : PathOps)
    {valueTree valueTree' : List (String × Node)} {moved : List (List String)}
    (h : Keeps valueTree valueTree' moved) :
    ∀ q v, (q, v) ∈ remaining t P valueTree [] → (∀ p ∈ moved, ¬ p <+: q) →
      (q, v) ∈ remaining t P valueTree' [] := by
  intro q v hq hm
  obtain ⟨_, rfl, hr, hk⟩ := (mem_remaining t P _ _ _ _).mp hq
  exact (mem_remaining t P _ _ _ _).mpr ⟨q, rfl, h q v (Kept.not_map hk) hr hm, hk⟩

/-- What a translation step leaves: the two trees and, beside what the source returns, the paths
it deleted and the paths whose values it wrote, each recorded at its own call. -/
structure Translated (Out : Type) where
  valueTree : List (String × Node)
  cpSpecTree : Out
  moved : List (List String)
  written : List (List String)

def Translated.append {Out : Type} (r r' : Translated Out) : Translated Out :=
  ⟨r'.valueTree, r'.cpSpecTree, r.moved ++ r'.moved, r.written ++ r'.written⟩

section Tree

variable (P : PathOps) {Out : Type} (T : TreeOps Out)

def translateTree : List (String × Translation) → List (String × Node) → Out →
    Except String (Translated Out)
  | [], valueTree, cpSpecTree => .ok ⟨valueTree, cpSpecTree, [], []⟩
  | (inPath, v) :: rest, valueTree, cpSpecTree =>
    match T.getFromTreePath valueTree (P.toYAMLPath inPath) with
    | .error err => .error err
    | .ok none => translateTree rest valueTree cpSpecTree
    | .ok (some m) =>
      if m.isEmptyString then translateTree rest valueTree cpSpecTree
      else if T.toIntValue m = some 0 then translateTree rest valueTree cpSpecTree
      else do
        let cpSpecTree ← T.writeNode cpSpecTree (P.toYAMLPath v.outPath) m
        let valueTree ← T.deleteFromTree valueTree (P.toYAMLPath inPath)
        let r ← translateTree rest valueTree cpSpecTree
        pure ⟨r.valueTree, r.cpSpecTree, P.toYAMLPath inPath :: r.moved,
          P.toYAMLPath inPath :: r.written⟩

theorem translateTree_deletes :
    ∀ (apiMapping : List (String × Translation)) (valueTree : List (String × Node))
      (cpSpecTree : Out) {r : Translated Out},
      translateTree P T apiMapping valueTree cpSpecTree = .ok r →
      DeleteChain T valueTree r.valueTree r.moved ∧ r.written = r.moved
  | [], _, _, _, h => by
    cases h
    exact ⟨.nil _, rfl⟩
  | (inPath, v) :: rest, valueTree, cpSpecTree, _, h => by
    unfold translateTree at h
    split at h
    · cases h
    · exact translateTree_deletes rest _ _ h
    · split_ifs at h
      · exact translateTree_deletes rest _ _ h
      · exact translateTree_deletes rest _ _ h
      · obtain ⟨out, -, h⟩ := bind_eq_ok.mp h
        obtain ⟨vt, hvt, h⟩ := bind_eq_ok.mp h
        obtain ⟨r, hr, h⟩ := bind_eq_ok.mp h
        cases h
        obtain ⟨hd, hw⟩ := translateTree_deletes rest _ _ hr
        exact ⟨.cons hvt hd, congrArg _ hw⟩

end Tree

def Node.mapEntries (f : List (String × Node) → List (String × Node)) : Node → Node
  | .map entries => .map (f entries)
  | n => n

/-- A `DeleteFromTree` stand-in: the value at the path set to nil in the map holding it. -/
def nullAt : List (String × Node) → List String → List (String × Node)
  | _, [] => []
  | tree, [k] => tree.map fun e ↦ if e.1 = k then (k, .null) else e
  | tree, k :: k' :: ks =>
    tree.map fun e ↦ if e.1 = k then (e.1, e.2.mapEntries (nullAt · (k' :: ks))) else e

def getAt : List (String × Node) → List String → Option Node
  | tree, [] => some (.map tree)
  | tree, [k] => (tree.find? (·.1 == k)).map (·.2)
  | tree, k :: k' :: ks =>
    match ((tree.find? (·.1 == k)).map (·.2) : Option Node) with
    | some (Node.map sub) => getAt sub (k' :: ks)
    | _ => none

theorem reaches_nullAt_of_outside : ∀ (path : List String) (tree : List (String × Node))
    (q : List String) (v : Node), (∀ e, v ≠ .map e) → Reaches (.map tree) q v → ¬ path <+: q →
      Reaches (.map (nullAt tree path)) q v
  | [], _, _, _, _, _, hp => absurd List.nil_prefix hp
  | [k], tree, _, _, hv, hr, hp => by
    rcases hr with _ | @⟨_, key, _, _, _, h, hr⟩
    · exact absurd rfl (hv _)
    · have hk : key ≠ k := fun e ↦ hp (e ▸ List.cons_prefix_cons.mpr ⟨rfl, List.nil_prefix⟩)
      exact .down (List.mem_map.mpr ⟨_, h, by simp [hk]⟩) hr
  | k :: k' :: ks, tree, _, _, hv, hr, hp => by
    rcases hr with _ | @⟨_, key, sub, keys, _, h, hr⟩
    · exact absurd rfl (hv _)
    by_cases hk : key = k
    · subst hk
      cases sub with
      | map sub =>
        exact .down (List.mem_map.mpr ⟨(key, .map sub), h, by simp [Node.mapEntries]⟩)
          (reaches_nullAt_of_outside (k' :: ks) sub keys _ hv hr
            fun h ↦ hp (List.cons_prefix_cons.mpr ⟨rfl, h⟩))
      | null | list _ | scalar _ =>
        exact .down (List.mem_map.mpr ⟨(key, _), h, by simp [Node.mapEntries]⟩) hr
    · exact .down (List.mem_map.mpr ⟨(key, sub), h, by simp [hk]⟩) hr

def writeAt : List (String × Node) → List String → Node → List (String × Node)
  | tree, [], _ => tree
  | tree, [k], n => tree.filter (·.1 != k) ++ [(k, n)]
  | tree, k :: k' :: ks, n =>
    match ((tree.find? (·.1 == k)).map (·.2) : Option Node) with
    | some (Node.map sub) =>
      tree.map fun e ↦ if e.1 = k then (k, .map (writeAt sub (k' :: ks) n)) else e
    | _ => tree.filter (·.1 != k) ++ [(k, .map (writeAt [] (k' :: ks) n))]

def dottedPathOps : PathOps := ⟨fun p ↦ join p ".", fun s ↦ split s '.'⟩

/-- The `tpath` stand-ins, with a number `0` as the only integer zero. -/
def standInTreeOps : TreeOps (List (String × Node)) :=
  ⟨fun tree p ↦ .ok (getAt tree p), fun tree p n ↦ .ok (writeAt tree p n),
    fun tree p ↦ .ok (nullAt tree p), fun | .scalar (.number "0") => some 0 | _ => none⟩

theorem standInTreeOps_keepsOthers : standInTreeOps.KeepsOthers := by
  rintro tree path tree' ⟨⟩ q v hv hr hm
  exact reaches_nullAt_of_outside path tree q v hv hr (hm path (List.mem_singleton_self _))

end IstioControlPlane.Operator.Translate
