import IstioControlPlane.Go

namespace IstioControlPlane.Operator.ProcessObject

open Go

/-- An object of a rendered manifest as `ProcessObject` reads it: a `List` whose items `ToList`
decodes, a `List` that `ToList` fails on, or an object of any other kind. -/
inductive Unstructured (Obj : Type) where
  | list (items : List (Unstructured Obj))
  | badList (err : String)
  | resource (obj : Obj)

inductive ProcessError where
  | message (err : String)
  | aggregate (errs : List ProcessError)

def newAggregate : List ProcessError → Option ProcessError
  | [] => none
  | errs => some (.aggregate errs)

inductive GetResult (Obj : Type) where
  | found (obj : Obj)
  | notFound
  | error (err : String)

/-- The API server as `ProcessObject`'s client sees it, from a state `S`. -/
structure Client (S Obj Key : Type) where
  objectKey : Obj → Key
  get : S → Key → GetResult Obj
  create : S → Obj → S × Option String
  update : S → Obj → S × Option String

structure Codec (Obj Json : Type) where
  encode : Obj → Except String Json
  mergePatch : Json → Json → Except String Json
  decodeInto : Json → Obj → Except String Obj

section Process

variable {S Obj Key Json : Type} (K : Codec Obj Json) (C : Client S Obj Key)
  (beginResource : String → Obj → Except String Obj) (chartName : String)

def applyOverlay (current overlay : Obj) : Except String Obj := do
  let cj ← K.encode current
  let uj ← K.encode overlay
  let merged ← K.mergePatch cj uj
  K.decodeInto merged current

/-- `ProcessObject` on an object that is not a `List`: create it when the server has none under
its key, otherwise merge it over the server's copy and update that. -/
def processResource (s : S) (obj : Obj) : S × Option ProcessError :=
  match beginResource chartName obj with
  | .error err => (s, some (.message err))
  | .ok mutatedObj =>
    match C.get s (C.objectKey mutatedObj) with
    | .notFound => ((C.create s mutatedObj).1, (C.create s mutatedObj).2.map .message)
    | .found receiver =>
      match applyOverlay K receiver mutatedObj with
      | .error err => (s, some (.message err))
      | .ok receiver => ((C.update s receiver).1, (C.update s receiver).2.map .message)
    | .error err => (s, some (.message err))

mutual

def processObject : S → Unstructured Obj → S × Option ProcessError
  | s, .list items =>
    ((processItems s items).1, newAggregate (processItems s items).2)
  | s, .badList err => (s, some (.message err))
  | s, .resource obj => processResource K C beginResource chartName s obj

def processItems : S → List (Unstructured Obj) → S × List ProcessError
  | s, [] => (s, [])
  | s, item :: rest =>
    ((processItems (processObject s item).1 rest).1,
      (processObject s item).2.toList ++ (processItems (processObject s item).1 rest).2)

end

/-- The objects `ProcessObject` sends on, depth first, through decodable `List`s. -/
def leaves : Unstructured Obj → List (Unstructured Obj)
  | .list items => leavesOf items
  | o => [o]
where
  leavesOf : List (Unstructured Obj) → List (Unstructured Obj)
    | [] => []
    | item :: rest => leaves item ++ leavesOf rest

def runLeaves : S → List (Unstructured Obj) → S × List ProcessError
  | s, [] => (s, [])
  | s, o :: rest =>
    ((runLeaves (processObject K C beginResource chartName s o).1 rest).1,
      (processObject K C beginResource chartName s o).2.toList ++
        (runLeaves (processObject K C beginResource chartName s o).1 rest).2)

theorem toList_eq_nil_iff_none {α : Type} (o : Option α) : o.toList = [] ↔ o = none := by
  cases o <;> simp

theorem runLeaves_append (s : S) (l l' : List (Unstructured Obj)) :
    runLeaves K C beginResource chartName s (l ++ l') =
      ((runLeaves K C beginResource chartName (runLeaves K C beginResource chartName s l).1 l').1,
        (runLeaves K C beginResource chartName s l).2 ++
          (runLeaves K C beginResource chartName (runLeaves K C beginResource chartName s l).1 l').2) := by
  induction l generalizing s with
  | nil => rfl
  | cons o l ih => simp only [List.cons_append, runLeaves, List.append_eq, ih, List.append_assoc]

mutual

theorem processObject_leaves : ∀ (s : S) (o : Unstructured Obj),
    (processObject K C beginResource chartName s o).1 =
        (runLeaves K C beginResource chartName s (leaves o)).1 ∧
      ((processObject K C beginResource chartName s o).2 = none ↔
        (runLeaves K C beginResource chartName s (leaves o)).2 = [])
  | s, .list items => by
    obtain ⟨h1, h2⟩ := processItems_leaves s items
    refine ⟨h1, ?_⟩
    rw [processObject, leaves, ← h2]
    cases (processItems K C beginResource chartName s items).2 <;> simp [newAggregate]
  | _, .badList _ | _, .resource _ =>
    ⟨rfl, by simp only [runLeaves, leaves, List.append_nil, toList_eq_nil_iff_none]⟩

theorem processItems_leaves : ∀ (s : S) (items : List (Unstructured Obj)),
    (processItems K C beginResource chartName s items).1 =
        (runLeaves K C beginResource chartName s (leaves.leavesOf items)).1 ∧
      ((processItems K C beginResource chartName s items).2 = [] ↔
        (runLeaves K C beginResource chartName s (leaves.leavesOf items)).2 = [])
  | _, [] => ⟨rfl, Iff.rfl⟩
  | s, item :: rest => by
    obtain ⟨h1, h2⟩ := processObject_leaves s item
    obtain ⟨h3, h4⟩ := processItems_leaves (processObject K C beginResource chartName s item).1 rest
    rw [processItems, leaves.leavesOf, runLeaves_append, ← h1]
    refine ⟨h3, ?_⟩
    simp only [List.append_eq_nil, toList_eq_nil_iff_none, h4, h2]

end

/-- `ProcessObject` never stops at a failed item: it processes every leaf in order, each from
the state the earlier ones left, and returns no error exactly when none failed. -/
theorem processObject_run (s : S) (o : Unstructured Obj) :
    (processObject K C beginResource chartName s o).1 =
        (runLeaves K C beginResource chartName s (leaves o)).1 ∧
      ((processObject K C beginResource chartName s o).2 = none ↔
        (runLeaves K C beginResource chartName s (leaves o)).2 = []) :=
  processObject_leaves K C beginResource chartName s o

end Process

end IstioControlPlane.Operator.ProcessObject
