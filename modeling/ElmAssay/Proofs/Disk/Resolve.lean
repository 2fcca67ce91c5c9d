import ElmAssay.Proofs.Disk.Grow
import Mathlib.Data.Finset.Card

/-!
# What resolving depends on

Resolving a path looks at links alone: in two trees with the same links every path is resolved to the same location, or
is caught in the same loop (`resolve_congr`). The count of links that may be followed is taken from the size of the
tree, and is never used up: of the links that are not being followed already there are fewer, and one of them goes with
each link that is followed (`resolveAlong_congr`). So a path is resolved to the same location when directories are
added or files change.
-/

namespace ElmAssay

namespace Tree

variable {t t' : Tree} {l : Location}

/-- Two trees with the same links. -/
def SameLinks (t t' : Tree) : Prop :=
  ∀ l target, t'.content? l = some (.link target) ↔ t.content? l = some (.link target)

theorem SameLinks.symm (h : SameLinks t t') : SameLinks t' t := fun l target => (h l target).symm

theorem Widens.sameLinks (h : Widens t t') : SameLinks t t' := fun _ _ => h.link_iff

/-- The locations of the links. -/
def links (t : Tree) : Finset Location :=
  (t.entries.map Prod.fst).toFinset.filter fun l => t.content? l matches some (.link _)

theorem mem_links_iff : l ∈ t.links ↔ ∃ target, t.content? l = some (.link target) := by
  rw [links, Finset.mem_filter, List.mem_toFinset]
  constructor
  · rintro ⟨-, hl⟩
    split at hl
    · rename_i target heq
      exact ⟨target, heq⟩
    · cases hl
  · rintro ⟨target, h⟩
    have hl : l ≠ [] := by
      rintro rfl
      cases h
    have hget : t.get? l ≠ none := by
      intro hnone
      rw [content?_eq_none_iff.2 hnone] at h
      cases h
    exact ⟨Disk.mem_keys_of_get? hl hget, by rw [h]⟩

theorem card_links_le (t : Tree) : t.links.card ≤ t.entries.length := by
  calc t.links.card ≤ (t.entries.map Prod.fst).toFinset.card := Finset.card_filter_le _ _
    _ ≤ (t.entries.map Prod.fst).length := List.toFinset_card_le _
    _ = t.entries.length := List.length_map _

/-- A link that is opened is one link less that is left. -/
theorem card_links_cons {opened : List Location} {target : String} (h : t.content? l = some (.link target))
    (hl : l ∉ opened) : (t.links \ (l :: opened).toFinset).card < (t.links \ opened.toFinset).card := by
  refine Finset.card_lt_card (Finset.ssubset_iff_subset_ne.2 ⟨fun k hk => ?_, fun he => ?_⟩)
  · rw [Finset.mem_sdiff, List.mem_toFinset] at hk ⊢
    exact ⟨hk.1, fun hm => hk.2 (List.mem_cons_of_mem _ hm)⟩
  · have hmem : l ∈ t.links \ opened.toFinset := by
      rw [Finset.mem_sdiff, List.mem_toFinset]
      exact ⟨mem_links_iff.2 ⟨target, h⟩, hl⟩
    rw [← he, Finset.mem_sdiff, List.mem_toFinset] at hmem
    exact hmem.2 List.mem_cons_self

/-! ## One part -/

theorem resolveAlong_up (n : Nat) (opened : List Location) (l : Location) (parts : List String) :
    t.resolveAlong n opened l (Path.up :: parts) = t.resolveAlong n opened l.dropLast parts := by
  rw [resolveAlong, if_neg (by decide), if_pos rfl]

/-- A link that is not being followed is followed, as long as links may be. -/
theorem resolveAlong_link {n : Nat} {opened : List Location} {part target : String} {parts : List String}
    (hproper : Path.IsProper part) (h : t.content? (l ++ [part]) = some (.link target)) :
    t.resolveAlong n opened l (part :: parts) =
      if n = 0 ∨ l ++ [part] ∈ opened then .error (l ++ [part], parts)
      else
        match t.resolveAlong (n - 1) ((l ++ [part]) :: opened) (startOf l target) (partsOf target) with
        | .error (stuck, rest) => .error (stuck, rest ++ parts)
        | .ok k => t.resolveAlong n opened k parts := by
  rw [resolveAlong, if_neg (by rintro (h | h); exacts [hproper.1 h, hproper.2.1 h]), if_neg hproper.2.2]
  dsimp only
  split
  · rename_i target' hlink
    obtain rfl : target' = target := by
      rw [h] at hlink
      cases hlink
      rfl
    rfl
  · rename_i hnone
    exact absurd h (hnone target)

theorem resolveAlong_name {n : Nat} {opened : List Location} {part : String} {parts : List String}
    (hproper : Path.IsProper part) (h : ∀ target, t.content? (l ++ [part]) ≠ some (.link target)) :
    t.resolveAlong n opened l (part :: parts) = t.resolveAlong n opened (l ++ [part]) parts := by
  rw [resolveAlong, if_neg (by rintro (h | h); exacts [hproper.1 h, hproper.2.1 h]), if_neg hproper.2.2]
  dsimp only
  split
  · rename_i target hlink
    exact absurd hlink (h target)
  · rfl

/-! ## The same links -/

/-- In trees with the same links parts lead to the same location, as long as the counts of links that may be followed
are greater than that of the links that are left. -/
theorem resolveAlong_congr (h : SameLinks t t') (n m : Nat) (opened : List Location) (l : Location)
    (parts : List String) (hn : (t.links \ opened.toFinset).card < n) (hm : (t.links \ opened.toFinset).card < m) :
    t.resolveAlong n opened l parts = t'.resolveAlong m opened l parts := by
  fun_induction resolveAlong t n opened l parts generalizing m with
  | case1 => rw [resolveAlong]
  | case2 n opened l part parts hpart ih =>
    rw [resolveAlong, if_pos hpart]
    exact ih m hn hm
  | case3 n opened l parts _ ih =>
    rw [resolveAlong_up]
    exact ih m hn hm
  | case4 n opened l part parts hpart hup next target hlink hstop =>
    have hproper : Path.IsProper part := ⟨fun he => hpart (.inl he), fun he => hpart (.inr he), hup⟩
    have hopen : next ∈ opened := hstop.resolve_left (by omega)
    rw [resolveAlong_link hproper ((h _ _).2 hlink), if_pos (.inr hopen)]
  | case5 n opened l part parts hpart hup next target hlink hgo stuck rest hstuck ih =>
    have hproper : Path.IsProper part := ⟨fun he => hpart (.inl he), fun he => hpart (.inr he), hup⟩
    obtain ⟨-, hnew⟩ := not_or.1 hgo
    have hless := card_links_cons hlink hnew
    rw [resolveAlong_link hproper ((h _ _).2 hlink), if_neg (not_or.2 ⟨by omega, hnew⟩),
      ← ih (m - 1) (by omega) (by omega), hstuck]
  | case6 n opened l part parts hpart hup next target hlink hgo k hk ihlink ihrest =>
    have hproper : Path.IsProper part := ⟨fun he => hpart (.inl he), fun he => hpart (.inr he), hup⟩
    obtain ⟨-, hnew⟩ := not_or.1 hgo
    have hless := card_links_cons hlink hnew
    rw [resolveAlong_link hproper ((h _ _).2 hlink), if_neg (not_or.2 ⟨by omega, hnew⟩),
      ← ihlink (m - 1) (by omega) (by omega), hk]
    exact ihrest m hn hm
  | case7 n opened l part parts hpart hup next hnolink ih =>
    have hproper : Path.IsProper part := ⟨fun he => hpart (.inl he), fun he => hpart (.inr he), hup⟩
    rw [resolveAlong_name hproper fun target hlink => hnolink target ((h _ _).1 hlink)]
    exact ih m hn hm

theorem SameLinks.card_links (h : SameLinks t t') : t.links.card = t'.links.card := by
  congr 1
  ext l
  rw [mem_links_iff, mem_links_iff]
  exact exists_congr fun target => (h l target).symm

/-- **Trees with the same links resolve every path alike.** -/
theorem resolve_congr (h : SameLinks t t') (parts : List String) : t.resolve parts = t'.resolve parts := by
  have hn := t.card_links_le
  have hm := h.card_links ▸ t'.card_links_le
  refine resolveAlong_congr h _ _ [] [] parts ?_ ?_ <;>
  · rw [List.toFinset_nil, Finset.sdiff_empty]
    omega

end Tree

namespace Disk

variable {d d' : Disk}

theorem resolve_congr (h : Tree.SameLinks d.tree d'.tree) (hcurrent : d'.current = d.current) (p : Path) :
    d.resolve p = d'.resolve p := by
  rw [resolve, resolve, currentPath, currentPath, hcurrent, Tree.resolve_congr h]

theorem Widens.resolve (h : Widens d d') (p : Path) : d.resolve p = d'.resolve p :=
  resolve_congr h.tree.sameLinks h.current p

/-- A directory below the top is resolved as it is. -/
theorem resolve_of_directory {name : String} (hname : Path.IsProper name)
    (hnull : name.toList.contains '\x00' = false) (h : d.tree.content? [name] = some .directory) :
    d.resolve ⟨.top, [name]⟩ = .ok ⟨.top, [name]⟩ := by
  have htree : d.tree.resolve [name] = .ok [name] := by
    rw [Tree.resolve, Tree.resolveAlong_name hname (by simp [h]), Tree.resolveAlong]
    rfl
  have hparts : (d.currentPath / (⟨.top, [name]⟩ : Path)).parts = [name] := rfl
  rw [Disk.resolve, hparts, htree, Path.hasNull, List.any_cons, hnull]
  rfl

end Disk
end ElmAssay
