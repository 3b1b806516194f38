import IstioControlPlane.Go
import Mathlib.Data.String.Basic
import Mathlib.Data.List.Sort

namespace IstioControlPlane.Operator.Helm

open Go

def yamlSeparator : String := "\n---\n"

def notesFileNameSuffix : String := ".txt"

/-- What `renderChart` calls of Helm, which is not part of this model: the render values of
the `istio` release and `engine.Render`. -/
structure HelmEngine (Chart Values : Type) where
  toRenderValuesCaps : Chart → String → String → Except String Values
  render : Chart → Values → Except String (GoMap String String)

/-- The order of `sort.Strings`: byte order, which for UTF-8 text is character order. -/
def StringsLE (a b : String) : Prop := a.toList ≤ b.toList

instance : DecidableRel StringsLE := fun a b ↦ inferInstanceAs (Decidable (a.toList ≤ b.toList))

instance : IsTotal String StringsLE := ⟨fun a b ↦ le_total a.toList b.toList⟩

instance : IsTrans String StringsLE := ⟨fun _ _ _ ↦ le_trans⟩

instance : IsAntisymm String StringsLE :=
  ⟨fun _ _ h₁ h₂ ↦ String.ext (le_antisymm h₁ h₂)⟩

def sortedKeys (order : List (Σ _ : String, String)) : List String :=
  ((order.map (·.1)).filter fun k ↦ !hasSuffix k notesFileNameSuffix).insertionSort StringsLE

/-- A rendered file with a YAML separator added, unless its text trimmed of spaces ends in one. -/
def withSeparator (f : String) : String :=
  if !hasSuffix (trimSpace f ++ "\n") yamlSeparator then f ++ yamlSeparator else f

def writeFiles (files : GoMap String String) (keys : List String) : String :=
  keys.foldl (fun sb k ↦ sb ++ withSeparator (files.get k)) ""

/-- `renderChart`: the rendered templates but the notes, in the order of their names, as one
manifest. -/
def renderChart {Chart Values : Type} (E : HelmEngine Chart Values) (ns values : String)
    (chrt : Chart) : Except String String := do
  let vals ← E.toRenderValuesCaps chrt values ns
  let files ← E.render chrt vals
  pure (writeFiles files (sortedKeys files.entries))

theorem sortedKeys_of_perm {files : GoMap String String} {order : List (Σ _ : String, String)}
    (hp : order.Perm files.entries) : sortedKeys order = sortedKeys files.entries :=
  List.eq_of_perm_of_sorted
    ((List.perm_insertionSort _ _).trans
      (((hp.map _).filter _).trans (List.perm_insertionSort _ _).symm))
    (List.sorted_insertionSort _ _) (List.sorted_insertionSort _ _)

theorem toList_writeFiles (files : GoMap String String) (keys : List String) :
    (writeFiles files keys).toList =
      (keys.map fun k ↦ (withSeparator (files.get k)).toList).flatten := by
  suffices ∀ acc : String, (keys.foldl (fun sb k ↦ sb ++ withSeparator (files.get k)) acc).toList =
      acc.toList ++ (keys.map fun k ↦ (withSeparator (files.get k)).toList).flatten from
    this ""
  induction keys with
  | nil => simp
  | cons k keys ih =>
    intro acc
    rw [List.foldl_cons, ih, toList_append, List.map_cons, List.flatten_cons, List.append_assoc]

theorem withSeparator_ends (f : String) :
    ∃ pre trail, (withSeparator f).toList = pre ++ "\n---".toList ++ trail ∧
      ∀ c ∈ trail, isSpace c = true := by
  unfold withSeparator
  cases h : hasSuffix (trimSpace f ++ "\n") yamlSeparator
  · exact ⟨f.toList, ['\n'], by simp [yamlSeparator, String.toList], by decide⟩
  · obtain ⟨pre, hpre⟩ := (List.isSuffixOf_iff_suffix.mp h)
    obtain ⟨lead, trail, hf, htrail⟩ := toList_eq_trimSpace f
    have h' : (trimSpace f).toList ++ ['\n'] = (pre ++ "\n---".toList) ++ ['\n'] := by
      simpa [yamlSeparator, String.toList] using hpre.symm
    rw [List.append_cancel_right h'] at hf
    refine ⟨lead ++ pre, trail, ?_, htrail⟩
    rw [if_neg (by decide), hf]
    simp only [List.append_assoc]

theorem renderChart_of_render {Chart Values : Type} {E : HelmEngine Chart Values}
    {ns values : String} {chrt : Chart} {vals : Values} {files : GoMap String String}
    (hv : E.toRenderValuesCaps chrt values ns = .ok vals) (hf : E.render chrt vals = .ok files) :
    renderChart E ns values chrt = .ok (writeFiles files (sortedKeys files.entries)) := by
  simp [renderChart, hv, hf, bind, Except.bind, pure, Except.pure]

def trailingDashFiles : GoMap String String :=
  ((∅ : GoMap String String).insert "a.yaml" "a: 1\n---").insert "b.yaml" "b: 2"

/-- A file ending in `---` with no newline gets no separator, so the next file starts on the
same line, for every Helm that renders these two files. -/
theorem renderChart_joins_file_to_separator {Chart Values : Type} (E : HelmEngine Chart Values)
    (ns values : String) (chrt : Chart) (vals : Values)
    (hv : E.toRenderValuesCaps chrt values ns = .ok vals)
    (hf : E.render chrt vals = .ok trailingDashFiles) :
    renderChart E ns values chrt = .ok "a: 1\n---b: 2\n---\n" :=
  (renderChart_of_render hv hf).trans (congrArg _ (by decide))

def trailingDashEngine : HelmEngine Unit Unit :=
  ⟨fun _ _ _ ↦ .ok (), fun _ _ ↦ .ok trailingDashFiles⟩

theorem renderChart_trailing_dash_chart :
    trailingDashEngine.toRenderValuesCaps () "" "istio-system" = .ok () ∧
      trailingDashEngine.render () () = .ok trailingDashFiles ∧
      renderChart trailingDashEngine "istio-system" "" () = .ok "a: 1\n---b: 2\n---\n" :=
  ⟨rfl, rfl, renderChart_joins_file_to_separator trailingDashEngine "istio-system" "" () () rfl rfl⟩

end IstioControlPlane.Operator.Helm
