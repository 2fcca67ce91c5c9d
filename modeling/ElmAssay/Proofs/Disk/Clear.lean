import ElmAssay.Proofs.Disk.Grow
import ElmAssay.Proofs.Path

/-!
# Paths over places that are free

The places of a path are those that its parts lead over by text alone (`Path.places`). A place is free if nothing is
there or a directory (`Tree.IsFree`). A path over free places leads to where it leads by text alone, or a directory is
missing on the way, or one of its names is too long (`Tree.advance_free`).

So whether a directory can be made at such a path depends on the path alone (`Path.fault`): it can be made if the path
is none that the system refuses, and then it and all places on the way to it are directories
(`makeDirectories_free`). How many of them were there before is all the same.
-/

namespace ElmAssay

/-! ## Failures without their paths -/

/-- The cause of a failure: a refusal of the system counts without the path at which the system refused. -/
def Failure.cause : Failure → Failure
  | .system e => .system ⟨e.refusal, ""⟩
  | x => x

/-- Failures with the same cause have the same wording. -/
theorem Failure.message_of_cause {x y : Failure} (h : x.cause = y.cause) : x.message = y.message := by
  have hsummary (z : Failure) : z.cause.message = z.message := by cases z <;> rfl
  rw [← hsummary x, ← hsummary y, h]

/-! ## Places -/

namespace Path

variable {l k : List String} {part : String} {parts : List String} {p : Path}

/-- The places that parts lead over from a location, by text alone. -/
def places (l : List String) : List String → List (List String)
  | [] => []
  | part :: parts => turn l part :: places (turn l part) parts

theorem places_append (l parts more : List String) :
    places l (parts ++ more) = places l parts ++ places (follow l parts) more := by
  induction parts generalizing l with
  | nil => rfl
  | cons part parts ih => rw [List.cons_append, places, places, ih, follow_cons, List.cons_append]

theorem places_snoc (l parts : List String) (part : String) :
    places l (parts ++ [part]) = places l parts ++ [follow l (parts ++ [part])] := by
  rw [places_append, follow_snoc]
  rfl

theorem follow_mem_places (h : parts ≠ []) : follow l parts ∈ places l parts := by
  rcases List.eq_nil_or_concat parts with rfl | ⟨front, last, rfl⟩
  · exact absurd rfl h
  · rw [List.concat_eq_append, places_snoc]
    exact List.mem_append_right _ List.mem_cons_self

theorem places_eq (h : parts ≠ []) : places l parts = places l parts.dropLast ++ [follow l parts] := by
  rcases List.eq_nil_or_concat parts with rfl | ⟨front, last, rfl⟩
  · exact absurd rfl h
  · rw [List.concat_eq_append, places_snoc, List.dropLast_concat]

/-- What lies on the way down from the top to the end of parts is one of the places of the parts. -/
theorem mem_places_of_front (hk : k ≠ []) (h : k <+: follow [] parts) : k ∈ places [] parts := by
  induction parts using List.reverseRecOn with
  | nil => exact absurd (List.prefix_nil.1 h) hk
  | append_singleton parts part ih =>
    rw [places_snoc, List.mem_append, List.mem_singleton]
    rw [follow_snoc, turn] at *
    split at h
    · exact .inl (ih (h.trans (List.dropLast_prefix _)))
    · rcases List.prefix_concat_iff.1 h with hlast | hfront
      · rename_i hup
        rw [if_neg hup]
        exact .inr hlast
      · exact .inl (ih hfront)

/-- Names lead over what lies on the way down. -/
theorem prefix_of_mem_places {names : List String} (h : up ∉ names) (hk : k ∈ places l names) :
    ∃ front, front <+: names ∧ k = l ++ front := by
  induction names generalizing l with
  | nil => cases hk
  | cons name names ih =>
    obtain ⟨hname, hnames⟩ := not_or.1 fun hm => h (List.mem_cons.2 hm)
    rw [places, turn_of_ne l (Ne.symm hname)] at hk
    rcases List.mem_cons.1 hk with rfl | hk
    · exact ⟨[name], List.cons_prefix_cons.2 ⟨rfl, List.nil_prefix⟩, rfl⟩
    · obtain ⟨front, hfront, rfl⟩ := ih hnames hk
      exact ⟨name :: front, List.cons_prefix_cons.2 ⟨rfl, hfront⟩, by rw [List.append_assoc]; rfl⟩

/-- Where a path from the top leads by text alone. -/
def place (p : Path) : List String := follow [] p.parts

theorem place_of_nil (h : p.parts = []) : p.place = [] := by rw [place, h, follow_nil]

theorem place_eq (h : p.parts ≠ []) : p.place = turn p.parent.place p.name := by
  rw [place, Path.parts_eq h, follow_snoc]
  rfl

/-- The places of a path are those of the path around it and its own. -/
theorem places_parent (h : p.parts ≠ []) : places [] p.parts = places [] p.parent.parts ++ [p.place] := places_eq h

theorem place_mem_places (h : p.parts ≠ []) : p.place ∈ places [] p.parts := follow_mem_places h

theorem places_parent_subset (p : Path) : places [] p.parent.parts ⊆ places [] p.parts := by
  by_cases hparts : p.parts = []
  · rw [parent_of_nil hparts]
    exact fun k hk => hk
  · rw [places_parent hparts]
    exact List.subset_append_left _ _

/-- A path from the top without parts that mean nothing or "here". -/
structure IsRooted (p : Path) : Prop where
  absolute : p.isAbsolute = true
  textual : ∀ part ∈ p.parts, part ≠ "" ∧ part ≠ here

theorem IsRooted.parent (h : p.IsRooted) : p.parent.IsRooted :=
  ⟨h.absolute, fun part hpart => h.textual part (List.dropLast_subset _ hpart)⟩

/-- Why the system refuses a path, as far as the path alone tells. -/
def fault (p : Path) : Option Failure :=
  if p.hasNull then some .nullCharacter
  else if Disk.pathLimit ≤ p.text.utf8ByteSize ∨ ∃ part ∈ p.parts, Tree.nameLimit < part.utf8ByteSize then
    some (.system ⟨.nameTooLong, ""⟩)
  else none

theorem fault_eq_none_iff :
    p.fault = none ↔ p.hasNull = false ∧ p.text.utf8ByteSize < Disk.pathLimit ∧
      ∀ part ∈ p.parts, part.utf8ByteSize ≤ Tree.nameLimit := by
  rw [fault]
  cases p.hasNull with
  | true => simp
  | false => simp

theorem fault_eq_some {x : Failure} (h : p.fault = some x) :
    (p.hasNull = true ∧ x = .nullCharacter) ∨
      (p.hasNull = false ∧
        (Disk.pathLimit ≤ p.text.utf8ByteSize ∨ ∃ part ∈ p.parts, Tree.nameLimit < part.utf8ByteSize) ∧
        x = .system ⟨.nameTooLong, ""⟩) := by
  rw [fault] at h
  split at h
  · rename_i hnull
    exact .inl ⟨hnull, (Option.some.inj h).symm⟩
  · rename_i hnull
    split at h
    · rename_i hlong
      exact .inr ⟨by simpa using hnull, hlong, (Option.some.inj h).symm⟩
    · cases h

theorem fault_of_long (hnull : p.hasNull = false)
    (h : Disk.pathLimit ≤ p.text.utf8ByteSize ∨ ∃ part ∈ p.parts, Tree.nameLimit < part.utf8ByteSize) :
    p.fault = some (.system ⟨.nameTooLong, ""⟩) := by
  rw [fault, hnull, if_neg Bool.false_ne_true, if_pos h]

end Path

open Path

/-! ## Walks over free places -/

namespace Tree

variable {t t' : Tree} {l k : Location} {parts : List String}

/-- Nothing is at a place, or a directory. -/
def IsFree (t : Tree) (k : Location) : Prop := t.content? k = none ∨ t.content? k = some .directory

instance (t : Tree) (k : Location) : Decidable (t.IsFree k) := inferInstanceAs (Decidable (_ ∨ _))

/-- No link is at a place. -/
def NoLink (t : Tree) (k : Location) : Prop := ∀ target, t.content? k ≠ some (.link target)

theorem IsFree.noLink (h : t.IsFree k) : t.NoLink k := by
  intro target hlink
  rcases h with h | h <;> cases h.symm.trans hlink

theorem advance_of_noLink {follows : Bool} {part : String} (hs : t.step l part = .ok k) (h : t.NoLink k) :
    t.advance follows l (part :: parts) = t.advance follows k parts := by
  rw [advance_cons hs]
  split
  · rename_i target hlink _
    exact absurd (way?_eq_link_iff.1 hlink) (h target)
  · rfl

/-- A walk over free places ends where the parts lead by text alone, or a directory is missing on the way, or a name is too
long. -/
theorem advance_free (hl : t.content? l = some .directory) (htextual : ∀ part ∈ parts, part ≠ "" ∧ part ≠ here)
    (hfree : ∀ k ∈ places l parts.dropLast, t.IsFree k) (hlink : t.NoLink (follow l parts)) :
    ((∀ follows, t.advance follows l parts = .ok (.arrived (follow l parts))) ∧
        (∀ part ∈ parts, part.utf8ByteSize ≤ nameLimit) ∧
        ∀ k ∈ places l parts.dropLast, t.content? k = some .directory) ∨
      ((∀ follows, t.advance follows l parts = .error .noEntry) ∧ ∃ k ∈ places l parts.dropLast, t.content? k = none) ∨
      ((∀ follows, t.advance follows l parts = .error .nameTooLong) ∧
        ∃ part ∈ parts, nameLimit < part.utf8ByteSize) := by
  induction parts generalizing l with
  | nil => exact .inl ⟨fun _ => rfl, List.forall_mem_nil _, List.forall_mem_nil _⟩
  | cons part parts ih =>
    obtain ⟨hempty, hhere⟩ := htextual part List.mem_cons_self
    have hnothing : ¬(part = "" ∨ part = here) := not_or.2 ⟨hempty, hhere⟩
    by_cases hlong : part ≠ up ∧ nameLimit < part.utf8ByteSize
    · have hs : t.step l part = .error .nameTooLong := by
        unfold step
        rw [hl]
        dsimp only
        rw [if_neg hnothing, if_neg hlong.1, if_pos hlong.2]
      exact .inr (.inr ⟨fun _ => by rw [advance, hs], part, List.mem_cons_self, hlong.2⟩)
    · have hshort : part.utf8ByteSize ≤ nameLimit := by
        by_cases hup : part = up
        · rw [hup]
          decide
        · exact Nat.le_of_not_lt fun h => hlong ⟨hup, h⟩
      have hs : t.step l part = .ok (turn l part) := by
        rw [step_eq_ok_iff, if_neg hnothing, turn]
        refine ⟨hl, ?_⟩
        split
        · rfl
        · exact ⟨hshort, rfl⟩
      cases parts with
      | nil =>
        refine .inl ⟨fun follows => ?_, fun a ha => List.mem_singleton.1 ha ▸ hshort, List.forall_mem_nil _⟩
        rw [advance_of_noLink hs hlink, advance]
        rfl
      | cons second parts =>
        have hnext : t.IsFree (turn l part) := hfree _ List.mem_cons_self
        have hgo (follows : Bool) : t.advance follows l (part :: second :: parts) =
            t.advance follows (turn l part) (second :: parts) := advance_of_noLink hs hnext.noLink
        simp only [hgo, List.dropLast_cons_cons, places]
        rcases hnext with hnone | hdir
        · refine .inr (.inl ⟨fun follows => ?_, turn l part, List.mem_cons_self, hnone⟩)
          have hstep : t.step (turn l part) second = .error .noEntry := by
            unfold step
            rw [hnone]
          rw [advance, hstep]
        · rcases ih hdir (fun a ha => htextual a (List.mem_cons_of_mem _ ha))
            (fun k hk => hfree k (List.mem_cons_of_mem _ hk)) hlink with
            ⟨ha, hfits, hdirs⟩ | ⟨ha, k, hk, hnone⟩ | ⟨ha, a, hm, hlong⟩
          · refine .inl ⟨ha, fun a hm => ?_, fun k hk => ?_⟩
            · rcases List.mem_cons.1 hm with rfl | hm
              · exact hshort
              · exact hfits a hm
            · rcases List.mem_cons.1 hk with rfl | hk
              · exact hdir
              · exact hdirs k hk
          · exact .inr (.inl ⟨ha, k, List.mem_cons_of_mem _ hk, hnone⟩)
          · exact .inr (.inr ⟨ha, a, List.mem_cons_of_mem _ hm, hlong⟩)

end Tree

namespace Disk

open Effect

variable {d d' : Disk} {p : Path}

/-- Where a path over free places leads. -/
theorem locateFrom_free (hp : p.IsRooted) (hshort : p.text.utf8ByteSize < pathLimit)
    (hfree : ∀ k ∈ places [] p.parts.dropLast, d.tree.IsFree k) (hlink : d.tree.NoLink p.place) :
    ((∀ follows, d.locateFrom follows p = .ok p.place) ∧
        (∀ part ∈ p.parts, part.utf8ByteSize ≤ Tree.nameLimit) ∧
        ∀ k ∈ places [] p.parts.dropLast, d.tree.content? k = some .directory) ∨
      ((∀ follows, d.locateFrom follows p = .error .noEntry) ∧
        ∃ k ∈ places [] p.parts.dropLast, d.tree.content? k = none) ∨
      ((∀ follows, d.locateFrom follows p = .error .nameTooLong) ∧
        ∃ part ∈ p.parts, Tree.nameLimit < part.utf8ByteSize) := by
  have hstart : d.startOf p = [] := if_pos hp.absolute
  have hwalk (follows : Bool) : d.locateFrom follows p = d.tree.walkAlong follows Tree.linkLimit [] p.parts := by
    rw [locateFrom_eq follows hshort, hstart, Tree.walk]
  simp only [hwalk]
  rcases Tree.advance_free (t := d.tree) (l := []) rfl hp.textual hfree hlink with
    ⟨ha, hfits, hdirs⟩ | ⟨ha, hnone⟩ | ⟨ha, hlong⟩
  · exact .inl ⟨fun follows => Tree.walkAlong_of_arrived _ (ha follows), hfits, hdirs⟩
  · exact .inr (.inl ⟨fun follows => Tree.walkAlong_of_error _ (ha follows), hnone⟩)
  · exact .inr (.inr ⟨fun follows => Tree.walkAlong_of_error _ (ha follows), hlong⟩)

/-! ## Directories at free places -/

/-- A disk that has a directory at every place of a path, and is else as it was. -/
structure Paved (p : Path) (d d' : Disk) : Prop where
  paved : ∀ k ∈ places [] p.parts, d'.tree.content? k = some .directory
  kept : ∀ k, k ∉ places [] p.parts → d'.tree.content? k = d.tree.content? k
  current : d'.current = d.current

theorem Paved.free (h : Paved p d d') {k : Location} (hk : d.tree.IsFree k) : d'.tree.IsFree k := by
  by_cases hmem : k ∈ places [] p.parts
  · exact .inr (h.paved k hmem)
  · rw [Tree.IsFree, h.kept k hmem]
    exact hk

theorem isDirectory_of_locate_error {r : Refusal} (hnull : p.hasNull = false) (h : d.locate p = .error r)
    (hr : r = .nameTooLong) : d.isDirectory p = .error (.system ⟨.nameTooLong, p.text⟩) := by
  rw [isDirectory, test, hnull, content, h, hr]
  rfl

/-- A path that is too long, or has a name that is, is refused. -/
theorem claimDirectory_of_tooLong (hnull : p.hasNull = false)
    (h : ∀ follows, d.locateFrom follows p = .error .nameTooLong) :
    claimDirectory p d = (.error (.system ⟨.nameTooLong, p.text⟩), d) := by
  have hw : d.withDirectory p = .error .nameTooLong := by
    rw [withDirectory, locateName, h]
  rw [claimDirectory_run, hnull, hw, isDirectory_of_locate_error hnull (h true) rfl]
  rfl

theorem locateFrom_of_long (h : pathLimit ≤ p.text.utf8ByteSize) (follows : Bool) :
    d.locateFrom follows p = .error .nameTooLong := by rw [locateFrom, if_pos h]

/-- Over directories a path that the system does not refuse leads where it leads by text alone. -/
theorem locateFrom_of_dirs (hp : p.IsRooted) (hfault : p.fault = none)
    (hdirs : ∀ k ∈ places [] p.parts.dropLast, d.tree.content? k = some .directory)
    (hlink : d.tree.NoLink p.place) (follows : Bool) :
    d.locateFrom follows p = .ok p.place := by
  obtain ⟨-, hshort, hfits⟩ := fault_eq_none_iff.1 hfault
  rcases locateFrom_free hp hshort (fun k hk => .inr (hdirs k hk)) hlink with
    ⟨h, -⟩ | ⟨-, k, hk, hnone⟩ | ⟨-, part, hpart, hlong⟩
  · exact h follows
  · cases hnone.symm.trans (hdirs k hk)
  · exact absurd (hfits part hpart) (Nat.not_le.2 hlong)

/-- A directory at free places, the ones on the way to which are directories, is made, or it is there. -/
theorem claimDirectory_of_paved (hp : p.IsRooted) (hfault : p.fault = none)
    (hdirs : ∀ k ∈ places [] p.parts.dropLast, d.tree.content? k = some .directory)
    (hfree : d.tree.IsFree p.place) :
    ∃ d', claimDirectory p d = (.ok true, d') ∧ Paved p d d' := by
  have hnull := (fault_eq_none_iff.1 hfault).1
  have hled := locateFrom_of_dirs hp hfault hdirs hfree.noLink
  rcases hfree with hnone | hdir
  · have hne : p.place ≠ [] := by
      intro he
      rw [he] at hnone
      cases hnone
    have hparts : p.parts ≠ [] := by
      intro he
      exact hne (place_of_nil he)
    -- going up leads to a directory on the way to the one above, which is there
    have hup : p.name ≠ up := by
      intro he
      have hlast : p.place = p.parent.place.dropLast := by rw [place_eq hparts, he, turn_up]
      rw [hlast] at hne hnone
      cases hnone.symm.trans (hdirs _ (mem_places_of_front hne (List.dropLast_prefix _)))
    have hget : d.tree.get? p.place = none := Tree.content?_eq_none_iff.1 hnone
    have hw : d.withDirectory p =
        .ok { d with tree := d.tree.create p.place .directory directoryRights d.stamp } := by
      rw [withDirectory, locateName, hled false]
      dsimp only
      rw [if_neg]
      rintro (h | h | h)
      · exact hparts h
      · exact hup h
      · rw [hget] at h
        cases h
    have hclaim : claimDirectory p d =
        (.ok true, { d with tree := d.tree.create p.place .directory directoryRights d.stamp }) := by
      rw [claimDirectory_run, hnull, hw]
      rfl
    refine ⟨_, hclaim, fun k hk => ?_, fun k hk => ?_, rfl⟩
    · rw [places_parent hparts, List.mem_append, List.mem_singleton] at hk
      by_cases hlast : k = p.place
      · rw [hlast]
        exact Tree.content?_create_self hne
      · rw [Tree.content?_create_of_ne hlast]
        exact hdirs k (hk.resolve_right hlast)
    · refine Tree.content?_create_of_ne fun hlast => hk ?_
      rw [hlast]
      exact place_mem_places hparts
  · have hi : d.isDirectory p = .ok true := isDirectory_eq_true_iff.2 ⟨hnull, _, hled true, hdir⟩
    refine ⟨d, claimDirectory_of_isDirectory hi, fun k hk => ?_, fun _ _ => rfl, rfl⟩
    by_cases hparts : p.parts = []
    · rw [hparts] at hk
      cases hk
    · rw [places_parent hparts, List.mem_append, List.mem_singleton] at hk
      rcases hk with hk | rfl
      · exact hdirs k hk
      · exact hdir

/-- Where a directory on the way to a directory is missing, that is made first. -/
theorem claimDirectory_of_missing (hnull : p.hasNull = false) (h : d.locateName p = .error .noEntry) :
    claimDirectory p d = (.ok false, d) := by
  have hw : d.withDirectory p = .error .noEntry := by rw [withDirectory, h]
  rw [claimDirectory_run, hnull, hw]
  rfl

/-- How a run ends: it fails for a cause if there is one, and else it succeeds on a disk of which something holds. -/
def Ends {α : Type} (cause : Option Failure) (J : Disk → Prop) (run : Except Failure α × Disk) : Prop :=
  match cause with
  | some x => ∃ e d', run = (.error e, d') ∧ e.cause = x
  | none => ∃ a d', run = (.ok a, d') ∧ J d'

section Ends

variable {α : Type} {run : Except Failure α × Disk} {cause : Option Failure} {J : Disk → Prop}

theorem ends_of_error {e x : Failure} (h : cause = some x) (hrun : run.1 = .error e) (hcause : e.cause = x) :
    Ends cause J run := by
  rw [h]
  exact ⟨e, run.2, Prod.ext hrun rfl, hcause⟩

theorem ends_of_ok {a : α} (h : cause = none) (hrun : run = (.ok a, d')) (hJ : J d') : Ends cause J run := by
  rw [h]
  exact ⟨a, d', hrun, hJ⟩

theorem Ends.error {x : Failure} (h : Ends cause J run) (hcause : cause = some x) :
    ∃ e d', run = (.error e, d') ∧ e.cause = x := by
  rw [hcause] at h
  exact h

theorem Ends.ok (h : Ends cause J run) (hcause : cause = none) : ∃ a d', run = (.ok a, d') ∧ J d' := by
  rw [hcause] at h
  exact h

end Ends

theorem Paved.trans {q : Path} {d'' : Disk} (h : Paved q d d') (hsub : places [] q.parts ⊆ places [] p.parts)
    (h' : Paved p d' d'') : Paved p d d'' where
  paved := h'.paved
  kept k hk := (h'.kept k hk).trans (h.kept k fun hm => hk (hsub hm))
  current := h'.current.trans h.current

/-- The end of free places is free, and so is the top. -/
theorem isFree_place (hfree : ∀ k ∈ places [] p.parts, d.tree.IsFree k) : d.tree.IsFree p.place := by
  by_cases hparts : p.parts = []
  · rw [place_of_nil hparts]
    exact .inr rfl
  · exact hfree _ (place_mem_places hparts)

theorem free_parent (hfree : ∀ k ∈ places [] p.parts, d.tree.IsFree k) :
    ∀ k ∈ places [] p.parent.parts, d.tree.IsFree k := fun k hk => hfree k (places_parent_subset p hk)

theorem claimDirectory_of_null (hnull : p.hasNull = true) : claimDirectory p d = (.error .nullCharacter, d) := by
  rw [claimDirectory_run, if_pos hnull]

/-- A path that the system refuses is refused when all directories on the way are there. -/
theorem claimDirectory_of_fault (hp : p.IsRooted) {x : Failure} (hfault : p.fault = some x)
    (hdirs : ∀ k ∈ places [] p.parts.dropLast, d.tree.content? k = some .directory)
    (hfree : d.tree.IsFree p.place) : ∃ e, claimDirectory p d = (.error e, d) ∧ e.cause = x := by
  rcases fault_eq_some hfault with ⟨hnull, rfl⟩ | ⟨hnull, hlong, rfl⟩
  · exact ⟨_, claimDirectory_of_null hnull, rfl⟩
  · refine ⟨_, claimDirectory_of_tooLong hnull fun follows => ?_, rfl⟩
    by_cases hshort : p.text.utf8ByteSize < pathLimit
    · obtain ⟨part, hpart, hlong⟩ := hlong.resolve_left (Nat.not_le.2 hshort)
      rcases locateFrom_free hp hshort (fun k hk => .inr (hdirs k hk)) hfree.noLink with
        ⟨-, hfits, -⟩ | ⟨-, k, hk, hnone⟩ | ⟨h, -⟩
      · exact absurd (hfits part hpart) (Nat.not_le.2 hlong)
      · cases hnone.symm.trans (hdirs k hk)
      · exact h follows
    · exact locateFrom_of_long (Nat.not_lt.1 hshort) follows

/-- If the system refuses the path around a path, it refuses that in the same way. -/
theorem fault_of_parent (hnull : p.hasNull = false) {x : Failure} (h : p.parent.fault = some x) : p.fault = some x := by
  rcases fault_eq_some h with ⟨hnull', -⟩ | ⟨-, hlong, rfl⟩
  · rw [hasNull_parent hnull] at hnull'
    cases hnull'
  · refine fault_of_long hnull ?_
    rcases hlong with hlong | ⟨part, hpart, hlong⟩
    · exact .inl (Nat.not_lt.1 fun hshort => absurd (short_parent hshort) (Nat.not_lt.2 hlong))
    · exact .inr ⟨part, List.dropLast_subset _ hpart, hlong⟩

/-- A directory at free places is there or can be made, or one on the way to it is missing, or the path is refused. -/
theorem claimDirectory_free (hp : p.IsRooted) (hfree : ∀ k ∈ places [] p.parts, d.tree.IsFree k) :
    (∃ d', claimDirectory p d = (.ok true, d') ∧ Paved p d d' ∧ p.fault = none) ∨
      (claimDirectory p d = (.ok false, d) ∧ p.hasNull = false ∧ p.parts ≠ []) ∨
        ∃ e x, claimDirectory p d = (.error e, d) ∧ p.fault = some x ∧ e.cause = x := by
  have hlast := isFree_place hfree
  cases hnull : p.hasNull with
  | true =>
    refine .inr (.inr ⟨.nullCharacter, .nullCharacter, claimDirectory_of_null hnull, ?_, rfl⟩)
    rw [fault, if_pos hnull]
  | false =>
    have htooLong (hlong : pathLimit ≤ p.text.utf8ByteSize ∨ ∃ part ∈ p.parts, Tree.nameLimit < part.utf8ByteSize)
        (h : ∀ follows, d.locateFrom follows p = .error .nameTooLong) :
        ∃ e x, claimDirectory p d = (.error e, d) ∧ p.fault = some x ∧ e.cause = x :=
      ⟨_, _, claimDirectory_of_tooLong hnull h, fault_of_long hnull hlong, rfl⟩
    by_cases hshort : p.text.utf8ByteSize < pathLimit
    · rcases locateFrom_free hp hshort (fun k hk => free_parent hfree k hk) hlast.noLink with
        ⟨-, hfits, hdirs⟩ | ⟨h, k, hk, -⟩ | ⟨h, hlong⟩
      · have hfault : p.fault = none := fault_eq_none_iff.2 ⟨hnull, hshort, hfits⟩
        obtain ⟨d', hclaim, hpaved⟩ := claimDirectory_of_paved hp hfault hdirs hlast
        exact .inl ⟨d', hclaim, hpaved, hfault⟩
      · refine .inr (.inl ⟨claimDirectory_of_missing hnull (h false), rfl, fun hparts => ?_⟩)
        rw [hparts] at hk
        cases hk
      · exact .inr (.inr (htooLong (.inr hlong) h))
    · have hlong := Nat.not_lt.1 hshort
      exact .inr (.inr (htooLong (.inl hlong) (locateFrom_of_long hlong)))

/-- **Whether a directory can be made at free places depends on the path alone**: if the system does not refuse the path,
it and all places on the way are directories afterwards. -/
theorem makeDirectoriesFrom_free (hp : p.IsRooted) (hfree : ∀ k ∈ places [] p.parts, d.tree.IsFree k) {n : Nat}
    (hn : p.parts.length = n) : Ends p.fault (Paved p d) (makeDirectoriesFrom n p d) := by
  induction n generalizing p d with
  | zero =>
    rcases claimDirectory_free hp hfree with ⟨d', hclaim, hpaved, hfault⟩ | ⟨-, -, hparts⟩ | ⟨e, x, hclaim, hfault, hcause⟩
    · exact ends_of_ok hfault (makeDirectoriesFrom_of_true hclaim 0) hpaved
    · exact absurd (List.length_eq_zero_iff.1 hn) hparts
    · exact ends_of_error hfault (congrArg Prod.fst (makeDirectoriesFrom_of_error hclaim 0)) hcause
  | succ n ih =>
    rcases claimDirectory_free hp hfree with
      ⟨d', hclaim, hpaved, hfault⟩ | ⟨hmissing, hnull, -⟩ | ⟨e, x, hclaim, hfault, hcause⟩
    · exact ends_of_ok hfault (makeDirectoriesFrom_of_true hclaim _) hpaved
    · -- the directory around it is made first, or cannot be made for the same reason
      have hparent := ih (d := d) hp.parent (free_parent hfree) (by rw [parent, List.length_dropLast, hn]; rfl)
      rw [makeDirectoriesFrom_succ n hmissing]
      cases hfault' : p.parent.fault with
      | some x =>
        obtain ⟨e, d', hrun, hcause⟩ := hparent.error hfault'
        exact ends_of_error (fault_of_parent hnull hfault') (by rw [hrun]) hcause
      | none =>
        obtain ⟨⟨⟩, d₁, hrun, hpaved⟩ := hparent.ok hfault'
        have hlast := hpaved.free (isFree_place hfree)
        rw [hrun]
        dsimp only
        cases hfault : p.fault with
        | none =>
          obtain ⟨d₂, hclaim, hpaved₂⟩ := claimDirectory_of_paved hp hfault hpaved.paved hlast
          exact ends_of_ok rfl (by rw [hclaim]) (hpaved.trans (places_parent_subset p) hpaved₂)
        | some x =>
          obtain ⟨e, hclaim, hcause⟩ := claimDirectory_of_fault hp hfault hpaved.paved hlast
          exact ends_of_error rfl (by rw [hclaim]) hcause
    · exact ends_of_error hfault (congrArg Prod.fst (makeDirectoriesFrom_of_error hclaim _)) hcause

theorem makeDirectories_free (hp : p.IsRooted) (hfree : ∀ k ∈ places [] p.parts, d.tree.IsFree k) :
    Ends p.fault (Paved p d) (makeDirectories p d) := makeDirectoriesFrom_free hp hfree rfl

end Disk
end ElmAssay
