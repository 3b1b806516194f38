import IstioControlPlane.Go
import Mathlib.Data.Nat.Digits
import Mathlib.Tactic.IntervalCases

namespace IstioControlPlane.Operator.VersionString

open Go

structure MajorVersion where
  major : UInt32
  deriving DecidableEq, Repr

structure MinorVersion extends MajorVersion where
  minor : UInt32
  deriving DecidableEq, Repr

structure PatchVersion extends MinorVersion where
  patch : UInt32
  deriving DecidableEq, Repr

/-- `Version`: a patch version with an optional suffix. -/
structure Version extends PatchVersion where
  suffix : String
  deriving DecidableEq, Repr

def MajorVersion.string (v : MajorVersion) : String := toString v.major

def MinorVersion.string (v : MinorVersion) : String :=
  v.toMajorVersion.string ++ "." ++ toString v.minor

def PatchVersion.string (v : PatchVersion) : String :=
  v.toMinorVersion.string ++ "." ++ toString v.patch

def Version.string (v : Version) : String :=
  if v.suffix = "" then v.toPatchVersion.string else v.toPatchVersion.string ++ "-" ++ v.suffix

/-- `NewVersionFromString`, with `goversion.NewVersion` then `Segments()` as `segments`: the first
three segments as `uint32`s, and the text after the first `-`. -/
def newVersionFromString (segments : String → Except String (List ℕ)) (s : String) :
    Except String Version := do
  let vv ← segments s
  let sv := split s '-'
  pure ⟨⟨⟨⟨UInt32.ofNat (vv.getD 0 0)⟩, UInt32.ofNat (vv.getD 1 0)⟩, UInt32.ofNat (vv.getD 2 0)⟩,
    if sv.length > 0 then join (sv.drop 1) "-" else ""⟩

def releasePrefix : String := "release-"

/-- `TagToVersionString`, with `goversion.NewSemver` then `Segments()` as `segments`. -/
def tagToVersionString (segments : String → Except String (List ℕ)) (path : String) :
    Except String String := do
  let path := trimPrefix path releasePrefix
  let segs ← segments path
  pure (join (segs.map toString) ".")

section Digits

theorem digitChar_ne_dash (k : ℕ) : Nat.digitChar k ≠ '-' := by
  by_cases hk : k < 16
  · interval_cases k <;> decide
  · unfold Nat.digitChar
    simp (disch := omega) only [if_neg]
    decide

theorem dash_not_mem_toDigitsCore (b : ℕ) :
    ∀ (fuel n : ℕ) (ds : List Char), '-' ∉ ds → '-' ∉ Nat.toDigitsCore b fuel n ds
  | 0, _, _, h => h
  | fuel + 1, n, ds, h => by
    have h' : '-' ∉ Nat.digitChar (n % b) :: ds :=
      List.not_mem_cons_of_ne_of_not_mem (digitChar_ne_dash _).symm h
    unfold Nat.toDigitsCore
    dsimp only
    split_ifs
    · exact h'
    · exact dash_not_mem_toDigitsCore b fuel _ _ h'

theorem dash_not_mem_toString (x : UInt32) : '-' ∉ (toString x).toList :=
  dash_not_mem_toDigitsCore 10 (x.toNat + 1) x.toNat [] (List.not_mem_nil _)

theorem dash_not_mem_patchVersion_string (v : PatchVersion) : '-' ∉ v.string.toList := by
  simp only [PatchVersion.string, MinorVersion.string, MajorVersion.string, toList_append,
    List.mem_append, not_or]
  exact ⟨⟨⟨⟨dash_not_mem_toString _, by decide⟩, dash_not_mem_toString _⟩, by decide⟩,
    dash_not_mem_toString _⟩

end Digits

theorem ofNat_toNat (x : UInt32) : UInt32.ofNat x.toNat = x := by
  apply UInt32.eq_of_val_eq
  simp [UInt32.ofNat, UInt32.toNat]

theorem join_drop_split_string (v : Version) : join ((split v.string '-').drop 1) "-" = v.suffix := by
  unfold Version.string
  split_ifs with h
  · rw [split, List.splitOn, List.splitOnP_eq_single _ _ fun x hx hx' ↦
      dash_not_mem_patchVersion_string _ (beq_iff_eq.mp hx' ▸ hx)]
    exact h.symm
  · rw [show v.toPatchVersion.string ++ "-" ++ v.suffix =
        v.toPatchVersion.string ++ ⟨['-']⟩ ++ v.suffix from rfl,
      split_append_of_not_mem (dash_not_mem_patchVersion_string _), List.drop_one, List.tail_cons]
    exact join_split v.suffix '-'

/-- `NewVersionFromString` reads back what `Version.String` prints, suffixes with `-`s included. -/
theorem newVersionFromString_string (segments : String → Except String (List ℕ)) (v : Version)
    {rest : List ℕ}
    (h : segments v.string = .ok (v.major.toNat :: v.minor.toNat :: v.patch.toNat :: rest)) :
    newVersionFromString segments v.string = .ok v := by
  have hlen : (split v.string '-').length > 0 :=
    List.length_pos.mpr (by simpa [split] using List.splitOnP_ne_nil _ _)
  simp only [newVersionFromString, h, bind, Except.bind, pure, Except.pure, List.getD_cons_zero,
    List.getD_cons_succ, ofNat_toNat, hlen, if_true, join_drop_split_string]

def numeral? (cs : List Char) : Option ℕ :=
  if cs ≠ [] ∧ cs.all Char.isDigit then
    some (cs.foldl (fun n c ↦ 10 * n + (c.toNat - '0'.toNat)) 0)
  else none

/-- A go-version stand-in reading the dot-separated numerals before the first `-`, padded to
three segments. -/
def leadingSegments (s : String) : Except String (List ℕ) :=
  match ((split s '-').headD "").toList.splitOn '.' |>.mapM numeral? with
  | some segs => .ok (segs ++ List.replicate (3 - segs.length) 0)
  | none => .error ("Malformed version: " ++ s)

theorem newVersionFromString_rc :
    leadingSegments (Version.string ⟨⟨⟨⟨1⟩, 5⟩, 0⟩, "rc-1"⟩) =
        .ok ((1 : UInt32).toNat :: (5 : UInt32).toNat :: (0 : UInt32).toNat :: []) ∧
      newVersionFromString leadingSegments (Version.string ⟨⟨⟨⟨1⟩, 5⟩, 0⟩, "rc-1"⟩) =
        .ok ⟨⟨⟨⟨1⟩, 5⟩, 0⟩, "rc-1"⟩ :=
  have h : leadingSegments (Version.string ⟨⟨⟨⟨1⟩, 5⟩, 0⟩, "rc-1"⟩) =
      .ok ((1 : UInt32).toNat :: (5 : UInt32).toNat :: (0 : UInt32).toNat :: []) := rfl
  ⟨h, newVersionFromString_string leadingSegments _ h⟩

end IstioControlPlane.Operator.VersionString
