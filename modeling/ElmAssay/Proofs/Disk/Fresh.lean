import ElmAssay.Disk
import ElmAssay.Proofs.Disk.Walk
import Mathlib.Data.List.Perm.Subperm
import Mathlib.Data.List.Nodup
import Mathlib.Data.List.Range

/-!
# Temporary names

The name of a temporary file is not taken in its directory (`content?_freshName`): the names by count are all
different (`temporaryName_injective`), and there are more of them to choose from than the tree has entries. What name
it is depends only on which of these names are taken (`freshName_congr`).
-/

namespace ElmAssay

/-! ## Names by count -/

theorem Number.ofDigitChars_padded (width n : Nat) : Nat.ofDigitChars 10 (Number.padded width n) 0 = n := by
  unfold Number.padded Number.natDigits
  rw [Nat.ofDigitChars_append, Nat.ofDigitChars_replicate_zero, Nat.mul_zero]
  exact Nat.ofDigitChars_ten_toDigits

namespace Disk

variable {t t' : Tree} {directory : Location} {name : String}

theorem temporaryName_injective (name : String) : Function.Injective (temporaryName name) := by
  intro m n h
  have hl : (temporaryName name m).toList = (temporaryName name n).toList := by rw [h]
  simp only [temporaryName, String.toList_append, String.toList_ofList] at hl
  have hp : Number.padded 8 m = Number.padded 8 n := List.append_cancel_left (List.append_cancel_right hl)
  rw [← Number.ofDigitChars_padded 8 m, hp, Number.ofDigitChars_padded]

theorem utf8ByteSize_temporaryName (name : String) (n : Nat) :
    name.utf8ByteSize < (temporaryName name n).utf8ByteSize := by
  simp only [temporaryName, String.utf8ByteSize_append]
  have hdot : (".").utf8ByteSize = 1 := by decide
  omega

theorem temporaryName_ne (name : String) (n : Nat) : temporaryName name n ≠ name := by
  intro h
  have hlt := utf8ByteSize_temporaryName name n
  rw [h] at hlt
  exact Nat.lt_irrefl _ hlt

/-! ## The first name that is not taken -/

theorem mem_keys_of_get? {l : Location} (hl : l ≠ []) (h : t.get? l ≠ none) : l ∈ t.entries.map Prod.fst := by
  rw [Tree.get?, if_neg hl] at h
  obtain ⟨e, he⟩ := Option.ne_none_iff_exists'.1 h
  rw [List.lookup_eq_some_iff] at he
  obtain ⟨front, back, hes, -⟩ := he
  rw [hes]
  simp

theorem temporaryName_place_injective (directory : Location) (name : String) :
    Function.Injective fun n => directory ++ [temporaryName name n] := by
  intro m n h
  exact temporaryName_injective name (List.singleton_inj.1 (List.append_cancel_left h))

/-- Of as many counts as there are entries and one more, one has a name that is not taken. -/
theorem exists_free (t : Tree) (directory : Location) (name : String) :
    ∃ n ∈ List.range (t.entries.length + 1), (t.get? (directory ++ [temporaryName name n])).isNone = true := by
  refine Classical.byContradiction fun hall => ?_
  have hnodup : ((List.range (t.entries.length + 1)).map fun n => directory ++ [temporaryName name n]).Nodup :=
    List.nodup_range.map (temporaryName_place_injective directory name)
  have hsub : ((List.range (t.entries.length + 1)).map fun n => directory ++ [temporaryName name n]) ⊆
      t.entries.map Prod.fst := by
    intro l hl
    obtain ⟨n, hn, rfl⟩ := List.mem_map.1 hl
    exact mem_keys_of_get? (by simp) fun hnone => hall ⟨n, hn, Option.isNone_iff_eq_none.2 hnone⟩
  have hle := (List.subperm_of_subset hnodup hsub).length_le
  simp only [List.length_map, List.length_range] at hle
  omega

/-- The temporary name is the one of the least count whose name is not taken. -/
theorem freshName_eq (t : Tree) (directory : Location) (name : String) :
    ∃ n, freshName t directory name = temporaryName name n ∧ t.get? (directory ++ [temporaryName name n]) = none ∧
      ∀ m < n, t.get? (directory ++ [temporaryName name m]) ≠ none := by
  obtain ⟨k, hk, hfree⟩ := exists_free t directory name
  cases hf : (List.range (t.entries.length + 1)).find?
      fun n => (t.get? (directory ++ [temporaryName name n])).isNone with
  | none => exact absurd hfree (by simpa using List.find?_eq_none.1 hf k hk)
  | some n =>
    have hn := List.find?_some hf
    refine ⟨n, by simp only [freshName, hf, Option.getD_some], Option.isNone_iff_eq_none.1 hn, fun m hm => ?_⟩
    obtain ⟨-, i, hi, hin, hbefore⟩ := List.find?_eq_some_iff_getElem.1 hf
    rw [List.getElem_range] at hin
    subst hin
    have hmi := hbefore m hm
    rw [List.getElem_range] at hmi
    intro hnone
    rw [hnone] at hmi
    exact absurd hmi (by decide)

/-- **The temporary name is not taken.** -/
theorem content?_freshName (t : Tree) (directory : Location) (name : String) :
    t.content? (directory ++ [freshName t directory name]) = none := by
  obtain ⟨n, hn, hfree, -⟩ := freshName_eq t directory name
  rw [hn]
  exact Tree.content?_eq_none_iff.2 hfree

theorem freshName_ne (t : Tree) (directory : Location) (name : String) : freshName t directory name ≠ name := by
  obtain ⟨n, hn, -⟩ := freshName_eq t directory name
  rw [hn]
  exact temporaryName_ne name n

theorem utf8ByteSize_freshName (t : Tree) (directory : Location) (name : String) :
    name.utf8ByteSize < (freshName t directory name).utf8ByteSize := by
  obtain ⟨n, hn, -⟩ := freshName_eq t directory name
  rw [hn]
  exact utf8ByteSize_temporaryName name n

/-- Two trees with the same contents at every name but the one of the file itself give it the same temporary name. -/
theorem freshName_congr (h : ∀ k, k ≠ directory ++ [name] → t'.content? k = t.content? k) :
    freshName t' directory name = freshName t directory name := by
  have hfree (n : Nat) : t'.get? (directory ++ [temporaryName name n]) = none ↔
      t.get? (directory ++ [temporaryName name n]) = none := by
    rw [← Tree.content?_eq_none_iff, ← Tree.content?_eq_none_iff, h]
    exact fun he => temporaryName_ne name n (List.singleton_inj.1 (List.append_cancel_left he))
  obtain ⟨m, hm, hmfree, hmleast⟩ := freshName_eq t' directory name
  obtain ⟨n, hn, hnfree, hnleast⟩ := freshName_eq t directory name
  have hmn : m = n := by
    rcases Nat.lt_trichotomy m n with hlt | heq | hgt
    · exact absurd ((hfree m).1 hmfree) (hnleast m hlt)
    · exact heq
    · exact absurd ((hfree n).2 hnfree) (hmleast n hgt)
  rw [hm, hn, hmn]

end Disk
end ElmAssay
