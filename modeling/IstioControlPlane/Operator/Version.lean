import IstioControlPlane.Go

namespace IstioControlPlane.Operator.Version

open Batteries Go

/-- What `UnmarshalYAML` and `GetVersionCompatibleMap` use of `hashicorp/go-version`, which is
not part of this model. -/
structure GoVersion (Version Constraints : Type) where
  newVersion : String → Except String Version
  newConstraint : String → Except String Constraints
  compare : Version → Version → Ordering
  check : Constraints → Version → Bool
  string : Version → String

structure InStruct where
  operatorVersion : String
  operatorVersionRange : String
  supportedIstioVersions : String
  recommendedIstioVersions : String
  k8sClientVersionRange : String
  k8sServerVersionRange : String
  deriving DecidableEq, Repr

/-- A `CompatibilityMapping` as `UnmarshalYAML` leaves it: the other ranges are set only when
given. -/
structure CompatibilityMapping (Version Constraints : Type) where
  operatorVersion : Version
  operatorVersionRange : Constraints
  supportedIstioVersions : Constraints
  recommendedIstioVersions : Option Constraints
  k8sClientVersionRange : Option Constraints
  k8sServerVersionRange : Option Constraints

variable {Version Constraints : Type} (G : GoVersion Version Constraints)

def GoVersion.equal (v o : Version) : Bool := (G.compare v o).isEq

def GoVersion.greaterThan (v o : Version) : Bool := (G.compare v o).isGT

def GoVersion.lessThanOrEqual (v o : Version) : Bool := (G.compare v o).isLE

def optionalConstraint (s : String) : Except String (Option Constraints) :=
  if s ≠ "" then some <$> G.newConstraint s else pure none

def unmarshalYAML (tmp : InStruct) : Except String (CompatibilityMapping Version Constraints) := do
  if tmp.operatorVersion = "" then throw "operatorVersion must be set"
  if tmp.supportedIstioVersions = "" then throw "supportedIstioVersions must be set"
  let operatorVersion ← G.newVersion tmp.operatorVersion
  let operatorVersionRange ← G.newConstraint
    (if tmp.operatorVersionRange ≠ "" then tmp.operatorVersionRange else tmp.operatorVersion)
  let supportedIstioVersions ← G.newConstraint tmp.supportedIstioVersions
  let recommendedIstioVersions ← optionalConstraint G tmp.recommendedIstioVersions
  let k8sClientVersionRange ← optionalConstraint G tmp.k8sClientVersionRange
  let k8sServerVersionRange ← optionalConstraint G tmp.k8sServerVersionRange
  pure ⟨operatorVersion, operatorVersionRange, supportedIstioVersions, recommendedIstioVersions,
    k8sClientVersionRange, k8sServerVersionRange⟩

theorem unmarshalYAML_ok {tmp : InStruct} {m : CompatibilityMapping Version Constraints}
    (h : unmarshalYAML G tmp = .ok m) :
    tmp.operatorVersion ≠ "" ∧ tmp.supportedIstioVersions ≠ "" ∧
      G.newVersion tmp.operatorVersion = .ok m.operatorVersion ∧
      G.newConstraint (if tmp.operatorVersionRange ≠ "" then tmp.operatorVersionRange
        else tmp.operatorVersion) = .ok m.operatorVersionRange := by
  unfold unmarshalYAML at h
  by_cases h1 : tmp.operatorVersion = ""
  · simp [h1, throw, throwThe, MonadExceptOf.throw, bind, Except.bind] at h
  by_cases h2 : tmp.supportedIstioVersions = ""
  · simp [h1, h2, throw, throwThe, MonadExceptOf.throw, bind, Except.bind, pure, Except.pure] at h
  refine ⟨h1, h2, ?_⟩
  simp only [h1, h2, ↓reduceIte, pure_bind] at h
  obtain ⟨_, hv, h⟩ := bind_eq_ok.mp h
  obtain ⟨_, hr, h⟩ := bind_eq_ok.mp h
  obtain ⟨_, -, h⟩ := bind_eq_ok.mp h
  obtain ⟨_, -, h⟩ := bind_eq_ok.mp h
  obtain ⟨_, -, h⟩ := bind_eq_ok.mp h
  obtain ⟨_, -, h⟩ := bind_eq_ok.mp h
  cases h
  exact ⟨hv, hr⟩

/-- `closestVersionMap`'s update: a mapping at most `binVersion` replaces the current one when
there is none yet or it is strictly newer. -/
def closer (binVersion : Version)
    (closestVersionMap : Option (CompatibilityMapping Version Constraints))
    (v : CompatibilityMapping Version Constraints) :
    Option (CompatibilityMapping Version Constraints) :=
  let newer := match closestVersionMap with
    | none => true
    | some c => G.greaterThan v.operatorVersion c.operatorVersion
  if newer && G.lessThanOrEqual v.operatorVersion binVersion then some v else closestVersionMap

/-- The loop of `GetVersionCompatibleMap`: an exact version breaks out; otherwise a range
holding `binVersion` replaces `myVersionMap`, and `closestVersionMap` is updated. -/
def versionMapLoop (binVersion : Version) :
    Option (CompatibilityMapping Version Constraints) ×
        Option (CompatibilityMapping Version Constraints) →
      List (CompatibilityMapping Version Constraints) →
      Option (CompatibilityMapping Version Constraints) ×
        Option (CompatibilityMapping Version Constraints)
  | acc, [] => acc
  | (myVersionMap, closestVersionMap), v :: versions =>
    if G.equal v.operatorVersion binVersion then (some v, closestVersionMap)
    else
      versionMapLoop binVersion
        (if G.check v.operatorVersionRange binVersion then some v else myVersionMap,
          closer G binVersion closestVersionMap v)
        versions

def getVersionCompatibleMap
    (loadVersions : String → Except String (List (CompatibilityMapping Version Constraints)))
    (versionsURI : String) (binVersion : Version) :
    Except String (CompatibilityMapping Version Constraints) := do
  let versions ← loadVersions versionsURI
  let (myVersionMap, closestVersionMap) := versionMapLoop G binVersion (none, none) versions
  match myVersionMap.or closestVersionMap with
  | some m => pure m
  | none =>
    throw ("this operator version " ++ G.string binVersion ++ " was not found in the version map")

def isGreatestAtMost (b : Version) (versions : List (CompatibilityMapping Version Constraints))
    (v : CompatibilityMapping Version Constraints) : Bool :=
  G.lessThanOrEqual v.operatorVersion b &&
    versions.all fun w ↦ !G.lessThanOrEqual w.operatorVersion b ||
      G.lessThanOrEqual w.operatorVersion v.operatorVersion

/-- The mapping the compatibility rule picks for `b`: the first with exactly that version, else
the last whose range holds it, else the first of those with the greatest version at most `b`. -/
def compatibleMapByRule (versions : List (CompatibilityMapping Version Constraints))
    (b : Version) : Option (CompatibilityMapping Version Constraints) :=
  (versions.find? fun v ↦ G.equal v.operatorVersion b).or <|
    (versions.reverse.find? fun v ↦ G.check v.operatorVersionRange b).or <|
      versions.find? (isGreatestAtMost G b versions)

section Compare

variable {G}

theorem lessThanOrEqual_iff {v o : Version} :
    G.lessThanOrEqual v o = true ↔ G.compare v o ≠ .gt := by
  unfold GoVersion.lessThanOrEqual
  cases G.compare v o <;> decide

theorem lessThanOrEqual_of_equal {v o : Version} (h : G.equal v o = true) :
    G.lessThanOrEqual v o = true := by
  revert h
  unfold GoVersion.equal GoVersion.lessThanOrEqual
  cases G.compare v o <;> decide

theorem lessThanOrEqual_of_greaterThan_false {v o : Version} (h : G.greaterThan v o = false) :
    G.lessThanOrEqual v o = true := by
  revert h
  unfold GoVersion.greaterThan GoVersion.lessThanOrEqual
  cases G.compare v o <;> decide

theorem lessThanOrEqual_false_of_greaterThan {v o : Version} (h : G.greaterThan v o = true) :
    G.lessThanOrEqual v o = false := by
  revert h
  unfold GoVersion.greaterThan GoVersion.lessThanOrEqual
  cases G.compare v o <;> decide

theorem lessThanOrEqual_refl [TransCmp G.compare] (v : Version) : G.lessThanOrEqual v v = true := by
  have h : G.compare v v = .eq := OrientedCmp.cmp_refl
  rw [lessThanOrEqual_iff, h]
  decide

theorem lessThanOrEqual_trans [TransCmp G.compare] {u v w : Version}
    (h₁ : G.lessThanOrEqual u v = true) (h₂ : G.lessThanOrEqual v w = true) :
    G.lessThanOrEqual u w = true :=
  lessThanOrEqual_iff.mpr (TransCmp.le_trans (lessThanOrEqual_iff.mp h₁) (lessThanOrEqual_iff.mp h₂))

theorem lessThanOrEqual_of_greaterThan [TransCmp G.compare] {v o : Version}
    (h : G.greaterThan v o = true) : G.lessThanOrEqual o v = true := by
  refine lessThanOrEqual_iff.mpr fun h' ↦ ?_
  unfold GoVersion.greaterThan at h
  rw [OrientedCmp.cmp_eq_gt.mp h'] at h
  exact absurd h (by decide)

end Compare

section Loop

variable {G} {b : Version}

theorem versionMapLoop_exact {v : CompatibilityMapping Version Constraints} :
    ∀ {versions : List (CompatibilityMapping Version Constraints)} (acc),
      versions.find? (fun v ↦ G.equal v.operatorVersion b) = some v →
        (versionMapLoop G b acc versions).1 = some v
  | [], _, h => nomatch h
  | x :: xs, (my, c), h => by
    rw [List.find?_cons] at h
    cases hx : G.equal x.operatorVersion b
    · rw [hx] at h
      simp only [versionMapLoop, hx, Bool.false_eq_true, ite_false]
      exact versionMapLoop_exact _ h
    · rw [hx] at h
      cases h
      simp [versionMapLoop, hx]

theorem versionMapLoop_of_find?_eq_none :
    ∀ {versions : List (CompatibilityMapping Version Constraints)} (my c),
      versions.find? (fun v ↦ G.equal v.operatorVersion b) = none →
        versionMapLoop G b (my, c) versions =
          ((versions.reverse.find? fun v ↦ G.check v.operatorVersionRange b).or my,
            versions.foldl (closer G b) c)
  | [], my, c, _ => by simp [versionMapLoop]
  | x :: xs, my, c, h => by
    rw [List.find?_cons] at h
    cases hx : G.equal x.operatorVersion b
    · rw [hx] at h
      simp only [versionMapLoop, hx, Bool.false_eq_true, ite_false]
      rw [versionMapLoop_of_find?_eq_none _ _ h, List.reverse_cons, List.find?_append,
        Option.or_assoc, List.foldl_cons, List.find?_singleton]
      cases G.check x.operatorVersionRange b <;> rfl
    · rw [hx] at h
      cases h

theorem closer_isSome (c : Option (CompatibilityMapping Version Constraints))
    (v : CompatibilityMapping Version Constraints) :
    (closer G b c v).isSome ↔ c.isSome ∨ G.lessThanOrEqual v.operatorVersion b := by
  unfold closer
  cases c <;> dsimp only <;> split_ifs <;> simp_all

theorem foldl_closer_isSome :
    ∀ (versions : List (CompatibilityMapping Version Constraints)) (c),
      (versions.foldl (closer G b) c).isSome ↔
        c.isSome ∨ ∃ w ∈ versions, G.lessThanOrEqual w.operatorVersion b
  | [], c => by simp
  | x :: xs, c => by
    rw [List.foldl_cons, foldl_closer_isSome xs, closer_isSome]
    simp only [List.mem_cons, or_and_right, exists_or, exists_eq_left, or_assoc]

theorem find?_eq_of_imp {α : Type} {p q : α → Bool} {l : List α} {c : α}
    (h : l.find? p = some c) (hqp : ∀ x ∈ l, q x → p x) (hq : q c) : l.find? q = some c := by
  obtain ⟨-, as, bs, rfl, has⟩ := List.find?_eq_some.mp h
  refine List.find?_eq_some.mpr ⟨hq, as, bs, rfl, fun a ha ↦ ?_⟩
  have := has a ha
  cases hqa : q a
  · rfl
  · simp_all [hqp a (List.mem_append_left _ ha) hqa]

theorem isGreatestAtMost_append_singleton
    (l : List (CompatibilityMapping Version Constraints)) (v x) :
    isGreatestAtMost G b (l ++ [v]) x =
      (isGreatestAtMost G b l x &&
        (!G.lessThanOrEqual v.operatorVersion b ||
          G.lessThanOrEqual v.operatorVersion x.operatorVersion)) := by
  simp [isGreatestAtMost, List.all_append, Bool.and_assoc]

theorem isGreatestAtMost_iff {l : List (CompatibilityMapping Version Constraints)} {x} :
    isGreatestAtMost G b l x = true ↔ G.lessThanOrEqual x.operatorVersion b = true ∧
      ∀ w ∈ l, G.lessThanOrEqual w.operatorVersion b = true →
        G.lessThanOrEqual w.operatorVersion x.operatorVersion = true := by
  simp [isGreatestAtMost, List.all_eq_true, imp_iff_not_or]

theorem closer_none_eq_find? [TransCmp G.compare]
    {l : List (CompatibilityMapping Version Constraints)}
    (hno : ∀ w ∈ l, G.lessThanOrEqual w.operatorVersion b = false) (v) :
    closer G b none v = (l ++ [v]).find? (isGreatestAtMost G b (l ++ [v])) := by
  rw [List.find?_append, List.find?_eq_none.mpr fun x hx ↦ by simp [isGreatestAtMost, hno x hx],
    List.find?_singleton, isGreatestAtMost_append_singleton]
  simp only [closer, Option.none_or, Bool.true_and]
  cases hv : G.lessThanOrEqual v.operatorVersion b
  · simp [isGreatestAtMost, hv]
  · have : isGreatestAtMost G b l v = true :=
      isGreatestAtMost_iff.mpr ⟨hv, fun w hw h ↦ by simp [hno w hw] at h⟩
    simp [this, lessThanOrEqual_refl]

theorem closer_some_eq_find? [TransCmp G.compare]
    {l : List (CompatibilityMapping Version Constraints)} {c}
    (hc : l.find? (isGreatestAtMost G b l) = some c) (v) :
    closer G b (some c) v = (l ++ [v]).find? (isGreatestAtMost G b (l ++ [v])) := by
  have hcmax := (isGreatestAtMost_iff.mp (List.find?_some hc)).2
  rw [List.find?_append, List.find?_singleton, isGreatestAtMost_append_singleton]
  simp only [closer]
  by_cases hv : G.greaterThan v.operatorVersion c.operatorVersion = true ∧
      G.lessThanOrEqual v.operatorVersion b = true
  · -- `v` is strictly newer than every greatest mapping of `l`
    have hcv := lessThanOrEqual_of_greaterThan hv.1
    rw [if_pos (by simpa using hv), List.find?_eq_none.mpr fun x hx hgx ↦ ?_]
    · have hv' : isGreatestAtMost G b l v = true :=
        isGreatestAtMost_iff.mpr ⟨hv.2, fun w hw h ↦ lessThanOrEqual_trans (hcmax w hw h) hcv⟩
      simp [hv', lessThanOrEqual_refl]
    · simp only [isGreatestAtMost_append_singleton, Bool.and_eq_true, hv.2, Bool.not_true,
        Bool.false_or] at hgx
      have hxc := hcmax x hx (isGreatestAtMost_iff.mp hgx.1).1
      have := lessThanOrEqual_false_of_greaterThan hv.1
      simp [lessThanOrEqual_trans hgx.2 hxc] at this
  · -- `v` does not replace `c`, and `c` stays the first greatest
    have hvc : G.lessThanOrEqual v.operatorVersion b = true →
        G.lessThanOrEqual v.operatorVersion c.operatorVersion = true := fun h ↦
      lessThanOrEqual_of_greaterThan_false (by simpa [h] using hv)
    refine (if_neg (by simpa using hv)).trans ?_
    rw [find?_eq_of_imp hc (fun x _ h ↦ ?_) ?_]
    · rfl
    · rw [isGreatestAtMost_append_singleton]
      cases h : G.lessThanOrEqual v.operatorVersion b <;> simp [List.find?_some hc, hvc, h]
    · rw [isGreatestAtMost_append_singleton, Bool.and_eq_true] at h
      exact h.1

/-- `closestVersionMap` ends as the first of the mappings with the greatest version at most `b`. -/
theorem foldl_closer_eq_find? [TransCmp G.compare]
    (versions : List (CompatibilityMapping Version Constraints)) :
    versions.foldl (closer G b) none = versions.find? (isGreatestAtMost G b versions) := by
  induction versions using List.reverseRecOn with
  | nil => rfl
  | append_singleton l v ih =>
    rw [List.foldl_append, ih, List.foldl_cons, List.foldl_nil]
    cases hc : l.find? (isGreatestAtMost G b l) with
    | none =>
      refine closer_none_eq_find? (fun w hw ↦ ?_) v
      have := (foldl_closer_isSome l none).not.mp (by rw [ih, hc]; simp)
      simpa using fun h ↦ this (.inr ⟨w, hw, h⟩)
    | some c => exact closer_some_eq_find? hc v

end Loop

section Claim

variable {G} [TransCmp G.compare]

theorem versionMapLoop_or_eq_compatibleMapByRule
    (versions : List (CompatibilityMapping Version Constraints)) (b : Version) :
    (versionMapLoop G b (none, none) versions).1.or (versionMapLoop G b (none, none) versions).2 =
      compatibleMapByRule G versions b := by
  unfold compatibleMapByRule
  cases hx : versions.find? (fun v ↦ G.equal v.operatorVersion b) with
  | some v => rw [versionMapLoop_exact _ hx]; rfl
  | none =>
    rw [versionMapLoop_of_find?_eq_none _ _ hx, foldl_closer_eq_find?, Option.none_or,
      Option.or_none]

theorem find?_isGreatestAtMost_eq_none
    (versions : List (CompatibilityMapping Version Constraints)) (b : Version) :
    versions.find? (isGreatestAtMost G b versions) = none ↔
      ∀ v ∈ versions, G.lessThanOrEqual v.operatorVersion b = false := by
  rw [← foldl_closer_eq_find?, ← Option.not_isSome_iff_eq_none, foldl_closer_isSome]
  simp

/-- `GetVersionCompatibleMap` returns what the compatibility rule picks, and the error exactly
when no range holds the binary's version and no mapping's version is at most it. -/
theorem getVersionCompatibleMap_eq
    {loadVersions : String → Except String (List (CompatibilityMapping Version Constraints))}
    {versionsURI : String} {versions : List (CompatibilityMapping Version Constraints)}
    (hload : loadVersions versionsURI = .ok versions) (b : Version) :
    getVersionCompatibleMap G loadVersions versionsURI b =
        (match compatibleMapByRule G versions b with
          | some m => .ok m
          | none =>
            .error ("this operator version " ++ G.string b ++ " was not found in the version map")) ∧
      (compatibleMapByRule G versions b = none ↔
        ∀ v ∈ versions, G.check v.operatorVersionRange b = false ∧
          G.lessThanOrEqual v.operatorVersion b = false) := by
  constructor
  · simp only [getVersionCompatibleMap, hload, bind, Except.bind,
      versionMapLoop_or_eq_compatibleMapByRule]
    cases compatibleMapByRule G versions b <;> rfl
  · rw [compatibleMapByRule, Option.or_eq_none, Option.or_eq_none,
      find?_isGreatestAtMost_eq_none]
    simp only [List.find?_eq_none, List.mem_reverse, Bool.not_eq_true]
    constructor
    · rintro ⟨-, hcheck, hle⟩ v hv
      exact ⟨hcheck v hv, hle v hv⟩
    · intro h
      refine ⟨fun v hv ↦ ?_, fun v hv ↦ (h v hv).1, fun v hv ↦ (h v hv).2⟩
      cases he : G.equal v.operatorVersion b
      · rfl
      · exact absurd (lessThanOrEqual_of_equal he) (by simp [(h v hv).2])

end Claim

/-- A go-version stand-in: a version is a number, a constraint an inclusive interval. -/
def sampleGoVersion : GoVersion ℕ (ℕ × ℕ) where
  newVersion s := match s.toNat? with
    | some n => .ok n
    | none => .error ("Malformed version: " ++ s)
  newConstraint s := match s.toNat? with
    | some n => .ok (n, n)
    | none => .error ("Malformed constraint: " ++ s)
  compare := compare
  check c v := c.1 ≤ v && v ≤ c.2
  string := toString

def sampleVersions : List (CompatibilityMapping ℕ (ℕ × ℕ)) :=
  [⟨3, (1, 3), (1, 1), none, none, none⟩, ⟨5, (4, 6), (1, 1), none, none, none⟩,
    ⟨6, (4, 9), (1, 1), none, none, none⟩]

theorem getVersionCompatibleMap_sample :
    TransCmp sampleGoVersion.compare ∧
      (fun _ ↦ .ok sampleVersions : String → Except String _) "versions.yaml" =
        .ok sampleVersions ∧
      (getVersionCompatibleMap sampleGoVersion (fun _ ↦ .ok sampleVersions) "versions.yaml" 4 =
          (match compatibleMapByRule sampleGoVersion sampleVersions 4 with
            | some m => .ok m
            | none => .error ("this operator version " ++ sampleGoVersion.string 4 ++
                " was not found in the version map")) ∧
        (compatibleMapByRule sampleGoVersion sampleVersions 4 = none ↔
          ∀ v ∈ sampleVersions, sampleGoVersion.check v.operatorVersionRange 4 = false ∧
            sampleGoVersion.lessThanOrEqual v.operatorVersion 4 = false)) :=
  have : TransCmp sampleGoVersion.compare := inferInstanceAs (TransCmp (compare : ℕ → ℕ → Ordering))
  ⟨this, rfl, @getVersionCompatibleMap_eq ℕ (ℕ × ℕ) sampleGoVersion this
    (fun _ ↦ .ok sampleVersions) "versions.yaml" sampleVersions rfl 4⟩

section Marshal

variable (constraintsString : Constraints → String)

def putOptional (key : String) : Option Constraints → GoMap String String → GoMap String String
  | some c, out => out.insert key (constraintsString c)
  | none, out => out

def marshalYAML (v : CompatibilityMapping Version Constraints) : Option (GoMap String String) :=
  let out : GoMap String String :=
    putOptional constraintsString "k8sServerVersionRange" v.k8sServerVersionRange <|
    putOptional constraintsString "k8sClientVersionRange" v.k8sClientVersionRange <|
    putOptional constraintsString "recommendedIstioVersions" v.recommendedIstioVersions <|
    ((∅ : GoMap String String).insert "operatorVersion" (G.string v.operatorVersion)
      |>.insert "operatorVersionRange" (constraintsString v.operatorVersionRange)
      |>.insert "supportedIstioVersions" (constraintsString v.supportedIstioVersions))
  if out.entries.length = 0 then none else some out

/-- What `unmarshal` decodes from a marshalled mapping: each field from its tag's key, the empty
string when the key is missing. -/
def inStructOf : Option (GoMap String String) → InStruct
  | some out => ⟨out.get "operatorVersion", out.get "operatorVersionRange",
      out.get "supportedIstioVersions", out.get "recommendedIstioVersions",
      out.get "k8sClientVersionRange", out.get "k8sServerVersionRange"⟩
  | none => ⟨"", "", "", "", "", ""⟩

def ParsesBack (c : Constraints) : Prop :=
  constraintsString c ≠ "" ∧ G.newConstraint (constraintsString c) = .ok c

/-- What the round trip needs of go-version for one mapping: each value it prints is non-empty
and parses back to itself. -/
structure PrintsBack (m : CompatibilityMapping Version Constraints) : Prop where
  operatorVersion : G.string m.operatorVersion ≠ "" ∧
    G.newVersion (G.string m.operatorVersion) = .ok m.operatorVersion
  operatorVersionRange : ParsesBack G constraintsString m.operatorVersionRange
  supportedIstioVersions : ParsesBack G constraintsString m.supportedIstioVersions
  recommendedIstioVersions : ∀ c ∈ m.recommendedIstioVersions, ParsesBack G constraintsString c
  k8sClientVersionRange : ∀ c ∈ m.k8sClientVersionRange, ParsesBack G constraintsString c
  k8sServerVersionRange : ∀ c ∈ m.k8sServerVersionRange, ParsesBack G constraintsString c

variable {constraintsString}

theorem lookup_putOptional_ne {key k : String} (h : key ≠ k) (c : Option Constraints)
    (out : GoMap String String) :
    (putOptional constraintsString key c out).lookup k = out.lookup k := by
  cases c <;> simp [putOptional, AList.lookup_insert_ne h.symm]

theorem lookup_putOptional_self {key : String} (c : Option Constraints) {out : GoMap String String}
    (h : out.lookup key = none) :
    (putOptional constraintsString key c out).lookup key = c.map constraintsString := by
  cases c <;> simp [putOptional, h]

theorem optionalConstraint_of_parsesBack {c : Option Constraints}
    (h : ∀ x ∈ c, ParsesBack G constraintsString x) :
    optionalConstraint G ((c.map constraintsString).getD default) = .ok c := by
  cases c with
  | none => rfl
  | some x =>
    obtain ⟨hne, hparse⟩ := h x rfl
    simp [optionalConstraint, hne, hparse]

/-- `UnmarshalYAML` reads back what `MarshalYAML` writes, for every mapping whose printed values
go-version parses back. -/
theorem unmarshalYAML_marshalYAML (m : CompatibilityMapping Version Constraints)
    (h : PrintsBack G constraintsString m) :
    unmarshalYAML G (inStructOf (marshalYAML G constraintsString m)) = .ok m := by
  simp only [marshalYAML]
  rw [if_neg (GoMap.length_ne_zero_of_lookup (k := "operatorVersion")
    (v := G.string m.operatorVersion) (by
    simp (disch := decide) only [lookup_putOptional_ne, AList.lookup_insert_ne, AList.lookup_insert]))]
  simp (disch := decide) only [inStructOf, GoMap.get, lookup_putOptional_ne, AList.lookup_insert,
    AList.lookup_insert_ne]
  rw [lookup_putOptional_self, lookup_putOptional_self, lookup_putOptional_self]
  · simp only [unmarshalYAML, h.operatorVersion.1, h.operatorVersion.2, h.operatorVersionRange.1,
      h.operatorVersionRange.2, h.supportedIstioVersions.1, h.supportedIstioVersions.2,
      optionalConstraint_of_parsesBack G h.recommendedIstioVersions,
      optionalConstraint_of_parsesBack G h.k8sClientVersionRange,
      optionalConstraint_of_parsesBack G h.k8sServerVersionRange, Option.getD_some, ne_eq,
      not_false_eq_true, ↓reduceIte, bind, Except.bind]
    rfl
  all_goals simp (disch := decide) only [lookup_putOptional_ne, AList.lookup_insert_ne,
    AList.lookup_empty]

/-- A go-version stand-in whose versions and ranges are their own text. -/
def textGoVersion : GoVersion String String where
  newVersion := .ok
  newConstraint := .ok
  compare := compare
  check _ _ := true
  string := id

/-- A version-map entry for operator 1.5.0, its ranges in constraint text go-version parses. -/
def textMapping : CompatibilityMapping String String :=
  ⟨"1.5.0", ">=1.5.0, <1.6.0", ">=1.4.0", some "1.5.0", none, none⟩

theorem versionMap_entry_reads_back :
    PrintsBack textGoVersion id textMapping ∧
      unmarshalYAML textGoVersion (inStructOf (marshalYAML textGoVersion id textMapping)) =
        .ok textMapping :=
  have h : PrintsBack textGoVersion id textMapping :=
    ⟨⟨by decide, rfl⟩, ⟨by decide, rfl⟩, ⟨by decide, rfl⟩,
      by rintro _ ⟨⟩; exact ⟨by decide, rfl⟩, by rintro _ ⟨⟩, by rintro _ ⟨⟩⟩
  ⟨h, unmarshalYAML_marshalYAML textGoVersion textMapping h⟩

end Marshal

end IstioControlPlane.Operator.Version
