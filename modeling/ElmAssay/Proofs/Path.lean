import ElmAssay.Path
import ElmAssay.Proofs.Text.Lines

/-!
# Where a path leads by text alone

Going up takes the last name off a location, and every other part is a name more (`Path.follow`). A path from the top is
collapsed to the location that its parts lead to (`collapse_parts_of_isAbsolute`), and a path from here is collapsed to
one that leads to the same places, from wherever it starts (`follow_collapse`). So collapsing may be put off to the end,
and what leads from one directory to another by text alone leads there (`follow_relativeFrom`). Collapsing once more
changes nothing (`collapse_collapse`).

The text of a path is read as that path again, if its parts are parts that a text can have (`parse_text`).
-/

namespace ElmAssay.Path

open Text

variable {l : List String} {parts : List String} {part : String} {p q : Path}

/-! ## Following parts -/

/-- The location that a part leads to from another one. -/
def turn (l : List String) (part : String) : List String := if part = up then l.dropLast else l ++ [part]

/-- The location that parts lead to from another one. -/
def follow (l parts : List String) : List String := parts.foldl turn l

@[simp] theorem turn_up (l : List String) : turn l up = l.dropLast := if_pos rfl

theorem turn_of_ne (l : List String) (h : part ≠ up) : turn l part = l ++ [part] := if_neg h

@[simp] theorem follow_nil (l : List String) : follow l [] = l := rfl

@[simp] theorem follow_cons (l : List String) (part : String) (parts : List String) :
    follow l (part :: parts) = follow (turn l part) parts := rfl

theorem follow_append (l parts more : List String) : follow l (parts ++ more) = follow (follow l parts) more :=
  List.foldl_append

theorem follow_snoc (l parts : List String) (part : String) :
    follow l (parts ++ [part]) = turn (follow l parts) part := follow_append l parts [part]

/-- Names lead down. -/
theorem follow_of_not_mem : ∀ {names : List String} (l : List String), up ∉ names → follow l names = l ++ names
  | [], l, _ => (List.append_nil l).symm
  | name :: names, l, h => by
    obtain ⟨hname, hnames⟩ := not_or.1 fun hm => h (List.mem_cons.2 hm)
    rw [follow_cons, turn_of_ne l (Ne.symm hname), follow_of_not_mem _ hnames, List.append_assoc]
    rfl

theorem up_not_mem_turn (h : up ∉ l) (part : String) : up ∉ turn l part := by
  rw [turn]
  split
  · exact fun hm => h (List.dropLast_subset l hm)
  · rename_i hne
    rw [List.mem_append, List.mem_singleton]
    exact fun hm => hm.elim h fun he => hne he.symm

/-- What parts lead to has no part that goes up. -/
theorem up_not_mem_follow : ∀ {l : List String} (parts : List String), up ∉ l → up ∉ follow l parts
  | _, [], h => h
  | _, part :: parts, h => up_not_mem_follow parts (up_not_mem_turn h part)

/-- Going up so many times leaves that many names less. -/
theorem follow_replicate_up : ∀ (n : Nat) (l : List String), follow l (List.replicate n up) = l.take (l.length - n)
  | 0, l => by rw [List.replicate_zero, follow_nil, Nat.sub_zero, List.take_length]
  | n + 1, l => by
    rw [List.replicate_succ, follow_cons, turn_up, follow_replicate_up n, List.length_dropLast, List.dropLast_eq_take,
      List.take_take]
    congr 1
    omega

/-! ## Collapsing -/

/-- On a stack without parts that go up, pushing a part of a path from the top is following it. -/
theorem reverse_pushPart_rooted {stack : List String} (h : up ∉ stack) (part : String) :
    (pushPart true stack part).reverse = turn stack.reverse part := by
  rw [pushPart.eq_def, turn]
  split
  · cases stack with
    | nil => rfl
    | cons last rest =>
      have hlast : last ≠ up := fun he => h (he ▸ List.mem_cons_self)
      simp only [if_neg hlast, List.reverse_cons, List.dropLast_concat]
  · rw [List.reverse_cons]

theorem reverse_foldl_pushPart_rooted : ∀ (parts : List String) {stack : List String}, up ∉ stack →
    (parts.foldl (pushPart true) stack).reverse = follow stack.reverse parts
  | [], _, _ => rfl
  | part :: parts, stack, h => by
    have hturn := reverse_pushPart_rooted h part
    have hstack : up ∉ pushPart true stack part := by
      rw [← List.mem_reverse, hturn]
      exact up_not_mem_turn (by rwa [List.mem_reverse]) part
    rw [List.foldl_cons, reverse_foldl_pushPart_rooted parts hstack, hturn, follow_cons]

/-- **A path from the top is collapsed to the location that its parts lead to.** -/
theorem collapse_parts_of_isAbsolute (h : p.isAbsolute = true) : p.collapse.parts = follow [] p.parts := by
  rw [collapse, h]
  exact reverse_foldl_pushPart_rooted p.parts List.not_mem_nil

/-- Pushing a part of a path from here leads to where the stack led, and on by the part. -/
theorem follow_reverse_pushPart (l stack : List String) (part : String) :
    follow l (pushPart false stack part).reverse = turn (follow l stack.reverse) part := by
  rw [pushPart.eq_def]
  split
  · rename_i hpart
    cases stack with
    | nil => rw [hpart]; rfl
    | cons last rest =>
      dsimp only
      split
      · rw [List.reverse_cons, follow_snoc, hpart]
      · rename_i hlast
        rw [List.reverse_cons, follow_snoc, turn_of_ne _ hlast, hpart, turn_up, List.dropLast_concat]
  · rw [List.reverse_cons, follow_snoc]

theorem follow_reverse_foldl_pushPart (l : List String) : ∀ (parts stack : List String),
    follow l (parts.foldl (pushPart false) stack).reverse = follow (follow l stack.reverse) parts
  | [], _ => rfl
  | part :: parts, stack => by
    rw [List.foldl_cons, follow_reverse_foldl_pushPart l parts, follow_reverse_pushPart, follow_cons]

/-- **A path from here leads to the same places collapsed or not**, from wherever it starts. -/
theorem follow_collapse (h : p.isAbsolute = false) (l : List String) :
    follow l p.collapse.parts = follow l p.parts := by
  rw [collapse, h]
  exact follow_reverse_foldl_pushPart l p.parts []

/-- A stack on which each part was put as it is: it went up nowhere. -/
def IsSettled (rooted : Bool) : List String → Prop
  | [] => True
  | part :: stack => pushPart rooted stack part = part :: stack ∧ IsSettled rooted stack

theorem IsSettled.pushPart {rooted : Bool} {stack : List String} (h : IsSettled rooted stack) (part : String) :
    IsSettled rooted (pushPart rooted stack part) := by
  rw [Path.pushPart.eq_def]
  split
  · rename_i hup
    cases stack with
    | nil => cases rooted <;> simp [IsSettled, Path.pushPart]
    | cons last rest =>
      dsimp only
      split
      · rename_i hlast
        exact ⟨by rw [Path.pushPart.eq_def, if_pos rfl]; exact if_pos hlast, h⟩
      · exact h.2
  · rename_i hname
    exact ⟨by rw [Path.pushPart.eq_def, if_neg hname], h⟩

/-- Parts of a collapsed path are parts of the path. -/
theorem mem_foldl_pushPart {rooted : Bool} : ∀ (parts : List String) {stack : List String} {part : String},
    part ∈ parts.foldl (pushPart rooted) stack → part ∈ stack ∨ part ∈ parts
  | [], _, _, h => .inl h
  | next :: parts, stack, part, h => by
    rcases mem_foldl_pushPart parts h with hm | hm
    · have hpush : part = next ∨ part ∈ stack := by
        revert hm
        fun_cases pushPart rooted stack next <;> grind
      exact hpush.elim (fun he => .inr (he ▸ List.mem_cons_self)) .inl
    · exact .inr (List.mem_cons_of_mem _ hm)

theorem mem_of_mem_collapse (h : part ∈ p.collapse.parts) : part ∈ p.parts := by
  rw [collapse, List.mem_reverse] at h
  exact (mem_foldl_pushPart p.parts h).resolve_left List.not_mem_nil

/-! ## Joining -/

theorem join_of_isAbsolute (p : Path) {q : Path} (h : q.isAbsolute = true) : p / q = q := if_pos h

theorem join_of_not_isAbsolute (p : Path) (h : q.isAbsolute = false) : p / q = ⟨p.anchor, p.parts ++ q.parts⟩ := by
  show p.join q = _
  rw [join, h]
  rfl

theorem isAbsolute_join {p : Path} (q : Path) (h : p.isAbsolute = true) : (p / q).isAbsolute = true := by
  cases hq : q.isAbsolute with
  | true => rw [join_of_isAbsolute p hq, hq]
  | false =>
    rw [join_of_not_isAbsolute p hq]
    exact h

/-- A path below a root continues the root. -/
theorem join_below? {root : Path} (h : p.below? root = some q) : root / q = p := by
  rw [below?] at h
  split at h
  · rename_i hbelow
    cases h
    obtain ⟨rest, hrest⟩ := List.isPrefixOf_iff_prefix.1 hbelow.2
    rw [← hrest, List.drop_left]
    show Path.mk root.anchor (root.parts ++ rest) = p
    rw [hrest, ← hbelow.1]
  · cases h

/-- What continues a path from the top is collapsed to where it leads from the location of that path. -/
theorem collapse_join (hp : p.isAbsolute = true) (hq : q.isAbsolute = false) :
    (p / q).collapse = ⟨p.anchor, follow (follow [] p.parts) q.parts⟩ := by
  have hpq : (p / q).isAbsolute = true := isAbsolute_join q hp
  have hparts := collapse_parts_of_isAbsolute hpq
  rw [join_of_not_isAbsolute p hq] at hparts ⊢
  rw [follow_append] at hparts
  rw [← hparts]
  rfl

/-! ## From one directory to another -/

theorem take_commonPrefix : ∀ (as bs : List String),
    as.take (commonPrefix as bs).length = bs.take (commonPrefix as bs).length
  | [], _ => by simp [commonPrefix]
  | _ :: _, [] => by simp [commonPrefix]
  | a :: as, b :: bs => by
    rw [commonPrefix]
    split
    · rename_i h
      rw [List.length_cons, List.take_succ_cons, List.take_succ_cons, take_commonPrefix as bs, h]
    · rfl

theorem length_commonPrefix_le : ∀ (as bs : List String), (commonPrefix as bs).length ≤ as.length
  | [], _ => by simp [commonPrefix]
  | _ :: _, [] => by simp [commonPrefix]
  | a :: as, b :: bs => by
    rw [commonPrefix]
    split
    · exact Nat.succ_le_succ (length_commonPrefix_le as bs)
    · exact Nat.zero_le _

/-- **What leads from a directory to a path by text alone leads there.** -/
theorem follow_relativeFrom (here : Path) {directory : Path} (hd : directory.isAbsolute = true)
    (hp : p.isAbsolute = true) :
    follow (follow [] directory.parts) (here.relativeFrom directory p).parts = follow [] p.parts := by
  rw [relativeFrom, join_of_isAbsolute here hd, join_of_isAbsolute here hp, collapse_parts_of_isAbsolute hd,
    collapse_parts_of_isAbsolute hp]
  dsimp only
  have htarget : up ∉ follow [] p.parts := up_not_mem_follow p.parts List.not_mem_nil
  generalize follow [] directory.parts = source at *
  generalize follow [] p.parts = target at *
  have hlength := length_commonPrefix_le source target
  rw [follow_append, follow_replicate_up, Nat.sub_sub_self hlength, take_commonPrefix,
    follow_of_not_mem _ fun hm => htarget (List.drop_subset _ _ hm), List.take_append_drop]

/-! ## Texts of paths -/

/-- A part that a text of a path can have: it is not empty, does not mean "here", and has no slash. -/
def IsPart (part : String) : Prop := part ≠ "" ∧ part ≠ here ∧ '/' ∉ part.toList

/-- All parts of a path are parts that a text can have. -/
def IsTextual (p : Path) : Prop := ∀ part ∈ p.parts, IsPart part

theorem isTextual_parse (s : String) : (parse s).IsTextual := by
  intro part hpart
  obtain ⟨hmem, hkept⟩ := List.mem_filter.1 hpart
  obtain ⟨piece, hpiece, rfl⟩ := List.mem_map.1 hmem
  rw [Bool.and_eq_true, bne_iff_ne, bne_iff_ne] at hkept
  refine ⟨hkept.1, hkept.2, ?_⟩
  rw [String.toList_ofList]
  exact not_mem_of_mem_cut hpiece

theorem IsTextual.join (hp : p.IsTextual) (hq : q.IsTextual) : (p / q).IsTextual := by
  intro part hpart
  cases h : q.isAbsolute with
  | true =>
    rw [join_of_isAbsolute p h] at hpart
    exact hq part hpart
  | false =>
    rw [join_of_not_isAbsolute p h] at hpart
    exact (List.mem_append.1 hpart).elim (hp part) (hq part)

theorem IsTextual.collapse (h : p.IsTextual) : p.collapse.IsTextual := fun part hpart => h part (mem_of_mem_collapse hpart)

theorem isPart_up : IsPart up := ⟨by decide, by decide, by decide⟩

theorem IsTextual.relativeFrom {here : Path} {directory : Path} (h : (here / p).IsTextual) :
    (here.relativeFrom directory p).IsTextual := by
  intro part hpart
  rcases List.mem_append.1 hpart with hup | hname
  · rw [(List.mem_replicate.1 hup).2]
    exact isPart_up
  · exact h.collapse part (List.drop_subset _ _ hname)

/-- The pieces of parts with slashes between them are the parts. -/
theorem cut_joinWith_parts (hne : parts ≠ []) (h : ∀ part ∈ parts, IsPart part) :
    (cut '/' (joinWith ['/'] (parts.map String.toList))).map String.ofList = parts := by
  have hslash : ∀ name ∈ parts.map String.toList, '/' ∉ name :=
    List.forall_mem_map.2 fun part hpart => (h part hpart).2.2
  rw [cut_joinWith_of_not_mem (by simpa using hne) hslash, List.map_map]
  refine (List.map_congr_left fun part _ => ?_).trans (List.map_id parts)
  exact String.ofList_toList

theorem filter_parts (h : ∀ part ∈ parts, IsPart part) : (parts.filter fun part => part != "" && part != here) = parts := by
  refine List.filter_eq_self.2 fun part hpart => ?_
  rw [Bool.and_eq_true, bne_iff_ne, bne_iff_ne]
  exact ⟨(h part hpart).1, (h part hpart).2.1⟩

/-- The first character of parts with slashes between them is no slash. -/
theorem joinWith_parts_eq_cons (hne : parts ≠ []) (h : ∀ part ∈ parts, IsPart part) :
    ∃ c rest, joinWith ['/'] (parts.map String.toList) = c :: rest ∧ c ≠ '/' := by
  obtain ⟨part, others, rfl⟩ := List.exists_cons_of_ne_nil hne
  obtain ⟨hempty, -, hslash⟩ := h part List.mem_cons_self
  cases hl : part.toList with
  | nil => exact absurd (String.toList_eq_nil_iff.1 hl) hempty
  | cons c rest =>
    have hc : c ≠ '/' := fun he => hslash (hl ▸ he ▸ List.mem_cons_self)
    cases others with
    | nil => exact ⟨c, rest, hl, hc⟩
    | cons next others =>
      refine ⟨c, rest ++ ['/'] ++ joinWith ['/'] ((next :: others).map String.toList), ?_, hc⟩
      rw [List.map_cons, hl]
      rfl

/-- Slashes in front of a text make no parts. -/
theorem filter_cut_slashes (anchor : Anchor) (s : List Char) :
    ((cut '/' (slashes anchor ++ s)).map String.ofList).filter (fun part => part != "" && part != here) =
      ((cut '/' s).map String.ofList).filter fun part => part != "" && part != here := by
  cases anchor <;> rfl

theorem anchorOf_slashes (anchor : Anchor) {c : Char} (rest : List Char) (hc : c ≠ '/') :
    anchorOf (slashes anchor ++ c :: rest) = anchor := by
  cases anchor <;> simp only [slashes, List.nil_append, List.cons_append] <;> unfold anchorOf <;> split <;> grind

/-- **The text of a path is read as that path.** -/
theorem parse_text (h : p.IsTextual) : parse p.text = p := by
  obtain ⟨anchor, parts⟩ := p
  cases parts with
  | nil => cases anchor <;> decide +kernel
  | cons part others =>
    obtain ⟨c, rest, hjoin, hc⟩ := joinWith_parts_eq_cons (List.cons_ne_nil part others) h
    have htext : (Path.text ⟨anchor, part :: others⟩).toList =
        slashes anchor ++ joinWith ['/'] ((part :: others).map String.toList) := by
      cases anchor <;> exact String.toList_ofList
    rw [parse, htext, filter_cut_slashes, cut_joinWith_parts (List.cons_ne_nil part others) h, filter_parts h, hjoin,
      anchorOf_slashes anchor rest hc]

end ElmAssay.Path
