import Mathlib.Data.List.AList
import Mathlib.Data.List.DropRight

namespace IstioControlPlane.Go

/-- A Go `map[K]V`. Statements that depend on the order of a `range` over it quantify over
every permutation of `entries`. -/
abbrev GoMap (K V : Type) := AList (fun _ : K ↦ V)

instance {K V : Type} [DecidableEq K] [DecidableEq V] : DecidableEq (GoMap K V) :=
  fun a b ↦ decidable_of_iff (a.entries = b.entries) AList.ext_iff.symm

/-- `m[k]`: the zero value when `k` is absent. -/
def GoMap.get {K V : Type} [DecidableEq K] [Inhabited V] (m : GoMap K V) (k : K) : V :=
  (m.lookup k).getD default

theorem GoMap.length_ne_zero_of_lookup {K V : Type} [DecidableEq K] {m : GoMap K V} {k : K} {v : V}
    (h : m.lookup k = some v) : m.entries.length ≠ 0 := by
  intro h0
  simp [AList.lookup, List.length_eq_zero.mp h0] at h

theorem GoMap.get_of_forall_mem {K V : Type} [DecidableEq K] [Inhabited V] {p : V → Prop}
    {m : GoMap K V} (hd : p default) (h : ∀ x ∈ m.entries, p x.2) (k : K) : p (m.get k) := by
  unfold GoMap.get
  cases hl : m.lookup k with
  | none => exact hd
  | some v => exact h ⟨k, v⟩ (AList.mem_lookup_iff.mp hl)

theorem GoMap.insert_erase {K V : Type} [DecidableEq K] (m : GoMap K V) (k : K) (v : V) :
    (m.erase k).insert k v = m.insert k v := by
  ext1
  rw [AList.insert_entries, AList.insert_entries]
  exact congrArg _ (List.kerase_of_not_mem_keys (List.not_mem_keys_kerase k m.nodupKeys))

theorem GoMap.mem_foldl_insert {K V α : Type} [DecidableEq K] (key : α → K) (val : α → V)
    (k : K) : ∀ (l : List α) (m : GoMap K V),
      k ∈ l.foldl (fun m a ↦ m.insert (key a) (val a)) m ↔ k ∈ m ∨ ∃ a ∈ l, key a = k
  | [], m => by simp
  | a :: l, m => by
    rw [List.foldl_cons, GoMap.mem_foldl_insert key val k l, AList.mem_insert]
    simp only [List.mem_cons, or_and_right, exists_or, exists_eq_left, @eq_comm _ (key a) k,
      or_assoc, or_left_comm]

/-- A loop that files an entry under `k` for the elements passing `p` ends holding the last
one filed. -/
theorem GoMap.lookup_foldl {K V α : Type} [DecidableEq K] {f : GoMap K V → α → GoMap K V}
    {k : K} {p : α → Bool} {g : α → V}
    (hf : ∀ m a, (f m a).lookup k = if p a then some (g a) else m.lookup k) :
    ∀ (l : List α) (m : GoMap K V),
      (l.foldl f m).lookup k = ((l.reverse.find? p).map g).or (m.lookup k)
  | [], m => by simp
  | a :: l, m => by
    rw [List.foldl_cons, GoMap.lookup_foldl hf l, hf, List.reverse_cons, List.find?_append,
      List.find?_singleton]
    cases l.reverse.find? p <;> cases p a <;> rfl

theorem GoMap.lookup_foldl_eq_some_iff {K V α : Type} [DecidableEq K]
    {f : GoMap K V → α → GoMap K V} {k : K} {p : α → Bool} {g : α → V}
    (hf : ∀ m a, (f m a).lookup k = if p a then some (g a) else m.lookup k) {l : List α}
    (hinj : ∀ a ∈ l, ∀ b ∈ l, p a → p b → g a = g b) (v : V) :
    (l.foldl f ∅).lookup k = some v ↔ ∃ a ∈ l, p a ∧ g a = v := by
  rw [GoMap.lookup_foldl hf, AList.lookup_empty, Option.or_none, Option.map_eq_some']
  constructor
  · rintro ⟨a, ha, rfl⟩
    exact ⟨a, List.mem_reverse.mp (List.mem_of_find?_eq_some ha), List.find?_some ha, rfl⟩
  · rintro ⟨a, ha, hpa, rfl⟩
    obtain ⟨b, hb⟩ := Option.isSome_iff_exists.mp
      (List.find?_isSome.mpr ⟨a, List.mem_reverse.mpr ha, hpa⟩)
    exact ⟨b, hb, hinj b (List.mem_reverse.mp (List.mem_of_find?_eq_some hb)) a ha
      (List.find?_some hb) hpa⟩

theorem find?_map_const {α β : Type} (l : List α) (p : α → Bool) (v : β) :
    (l.find? p).map (fun _ ↦ v) = if l.any p then some v else none := by
  induction l with
  | nil => rfl
  | cons a l ih => cases h : p a <;> simp [List.find?_cons, h, ih]

theorem GoMap.lookup_insert_ite {K V : Type} [DecidableEq K] (m : GoMap K V) (k' k : K) (v : V) :
    (m.insert k' v).lookup k = if k' = k then some v else m.lookup k := by
  split_ifs with h
  · rw [h, AList.lookup_insert]
  · exact AList.lookup_insert_ne (Ne.symm h)

theorem toList_append (s t : String) : (s ++ t).toList = s.toList ++ t.toList := rfl

def hasPrefix (s pre : String) : Bool := pre.toList.isPrefixOf s.toList

def hasSuffix (s suffix : String) : Bool := suffix.toList.isSuffixOf s.toList

def trimPrefix (s pre : String) : String :=
  if hasPrefix s pre then ⟨s.toList.drop pre.length⟩ else s

/-- `strings.Split` on a one-character separator, empty pieces included. -/
def split (s : String) (sep : Char) : List String := (s.toList.splitOn sep).map String.mk

def join (elems : List String) (sep : String) : String :=
  ⟨sep.toList.intercalate (elems.map String.toList)⟩

theorem split_append_of_not_mem {pre : String} {sep : Char} (h : sep ∉ pre.toList)
    (rest : String) : split (pre ++ ⟨[sep]⟩ ++ rest) sep = pre :: split rest sep := by
  have hl : (pre ++ ⟨[sep]⟩ ++ rest).toList = pre.toList ++ sep :: rest.toList := by
    simp [toList_append]
  unfold split
  rw [hl, List.splitOn, List.splitOnP_first (· == sep) pre.toList
    (fun x hx hx' ↦ h (beq_iff_eq.mp hx' ▸ hx)) sep (beq_self_eq_true sep)]
  rfl

theorem join_split (s : String) (sep : Char) : join (split s sep) ⟨[sep]⟩ = s := by
  have h : ((s.toList.splitOn sep).map String.mk).map String.toList = s.toList.splitOn sep := by
    rw [List.map_map]
    exact List.map_id _
  unfold join split
  rw [h]
  exact congrArg String.mk (List.intercalate_splitOn s.toList sep)

/-- `unicode.IsSpace`: the Latin-1 spaces `\t \n \v \f \r`, space, U+0085 and U+00A0, and the
other Unicode `White_Space` characters. -/
def isSpace (c : Char) : Bool :=
  [0x09, 0x0A, 0x0B, 0x0C, 0x0D, 0x20, 0x85, 0xA0, 0x1680, 0x2028, 0x2029, 0x202F, 0x205F,
    0x3000].contains c.toNat || (0x2000 ≤ c.toNat && c.toNat ≤ 0x200A)

def trimSpace (s : String) : String := ⟨(s.toList.dropWhile isSpace).rdropWhile isSpace⟩

theorem rdropWhile_append_rtakeWhile {α : Type} (p : α → Bool) (l : List α) :
    l.rdropWhile p ++ l.rtakeWhile p = l := by
  rw [List.rdropWhile, List.rtakeWhile, ← List.reverse_append, List.takeWhile_append_dropWhile,
    List.reverse_reverse]

theorem toList_eq_trimSpace (s : String) :
    ∃ lead trail, s.toList = lead ++ (trimSpace s).toList ++ trail ∧
      ∀ c ∈ trail, isSpace c = true := by
  refine ⟨s.toList.takeWhile isSpace, (s.toList.dropWhile isSpace).rtakeWhile isSpace, ?_,
    fun c hc ↦ List.mem_rtakeWhile_imp hc⟩
  change _ = _ ++ (List.rdropWhile _ _) ++ _
  rw [List.append_assoc, rdropWhile_append_rtakeWhile, List.takeWhile_append_dropWhile]

/-- A Go runtime panic, with the message the runtime prints. -/
structure Panic where
  msg : String
  deriving DecidableEq, Repr

theorem bind_eq_ok {ε α β : Type} {x : Except ε α} {f : α → Except ε β} {b : β} :
    x >>= f = .ok b ↔ ∃ a, x = .ok a ∧ f a = .ok b := by
  cases x <;> simp [bind, Except.bind]

theorem mapError_eq_ok {ε ε' α : Type} {x : Except ε α} {f : ε → ε'} {a : α} :
    x.mapError f = .ok a ↔ x = .ok a := by
  cases x <;> simp [Except.mapError]

theorem map_eq_ok {ε α β : Type} {x : Except ε α} {f : α → β} {b : β} :
    f <$> x = .ok b ↔ ∃ a, x = .ok a ∧ f a = b := by
  cases x <;> simp [Functor.map, Except.map]

theorem mapM_eq_ok {α β ε : Type} {f : α → Except ε β} {g : α → β} :
    ∀ {l : List α}, (∀ a ∈ l, f a = .ok (g a)) → l.mapM f = .ok (l.map g)
  | [], _ => rfl
  | a :: l, h => by
    rw [List.mapM_cons, h a (.head _), mapM_eq_ok fun b hb ↦ h b (.tail _ hb)]
    rfl

theorem mapM_congr_mem {m : Type → Type} [Monad m] [LawfulMonad m] {α β : Type}
    {f g : α → m β} : ∀ {l : List α}, (∀ a ∈ l, f a = g a) → l.mapM f = l.mapM g
  | [], _ => rfl
  | a :: l, h => by
    rw [List.mapM_cons, List.mapM_cons, h a (.head _), mapM_congr_mem fun b hb ↦ h b (.tail _ hb)]

theorem mapM_map_comp {m : Type → Type} [Monad m] [LawfulMonad m] {α β γ : Type}
    (f : α → m β) (G : β → γ) :
    ∀ l : List α, l.mapM (fun a ↦ G <$> f a) = List.map G <$> l.mapM f
  | [] => by rw [List.mapM_nil, List.mapM_nil, map_pure, List.map_nil]
  | a :: l => by
    simp only [List.mapM_cons, mapM_map_comp f G l, bind_map_left, map_bind, map_pure,
      List.map_cons]

theorem flatten_map_hom {β γ : Type} (F : List β → List γ)
    (hnil : F [] = []) (happ : ∀ xs ys, F (xs ++ ys) = F xs ++ F ys) :
    ∀ xss : List (List β), F xss.flatten = (xss.map F).flatten
  | [] => hnil
  | xs :: xss => by rw [List.flatten_cons, happ, flatten_map_hom F hnil happ xss]; rfl

theorem mapM_flatten_hom {α β γ ε : Type} (f : α → Except ε (List β))
    (F : List β → List γ)
    (hnil : F [] = []) (happ : ∀ xs ys, F (xs ++ ys) = F xs ++ F ys) (l : List α) :
    F <$> (List.flatten <$> l.mapM f) = List.flatten <$> l.mapM (fun a ↦ F <$> f a) := by
  rw [mapM_map_comp, Functor.map_map, Functor.map_map]
  simp only [flatten_map_hom F hnil happ]

end IstioControlPlane.Go
