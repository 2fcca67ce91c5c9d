import ElmAssay.Proofs.Disk.Grow
import ElmAssay.Proofs.Path

/-!
# Paths that stay outside a location

A path stays outside a location if nothing that it leads over is that location or below it (`Tree.Outside`); where
nothing is, it goes on by text alone. Such a path leads to the same place in two trees that agree outside the location
(`walkAlong_of_outside`), so the same is read there (`Disk.readBytes_of_outside`).
-/

namespace ElmAssay

open Path

namespace Tree

variable {t t' : Tree} {avoided l k : Location} {links : Nat} {part : String} {parts : List String}

/-- Two trees that have the same at every place that is neither a location nor below it. -/
def AgreeOutside (avoided : Location) (t t' : Tree) : Prop := ∀ k, ¬avoided <+: k → t'.content? k = t.content? k

theorem AgreeOutside.create {c : Content} {rights : Nat} {time : Int} (h : AgreeOutside avoided t t')
    (hl : avoided <+: l) : AgreeOutside avoided t (t'.create l c rights time) := by
  intro k hk
  have hne : k ≠ l := by
    rintro rfl
    exact hk hl
  rw [content?_create_of_ne hne]
  exact h k hk

/-- The place that a part leads to by text alone, where an empty part and the part "here" stay. -/
def heads (l : Location) (part : String) : Location := if part = "" ∨ part = here then l else turn l part

/-- What parts lead over from a location, as long as so many links are followed, is neither an avoided location nor below
it. -/
inductive Outside (t : Tree) (avoided : Location) : Nat → Location → List String → Prop
  | done {links : Nat} {l : Location} : Outside t avoided links l []
  | onward {links : Nat} {l : Location} {part : String} {parts : List String} : ¬avoided <+: heads l part →
      (∀ target, t.content? (heads l part) ≠ some (.link target)) → Outside t avoided links (heads l part) parts →
      Outside t avoided links l (part :: parts)
  | link {links : Nat} {l : Location} {part target : String} {parts : List String} : ¬avoided <+: heads l part →
      t.content? (heads l part) = some (.link target) →
      Outside t avoided links (startOf l target) (partsOf target ++ parts) →
      Outside t avoided (links + 1) l (part :: parts)
  | spent {l : Location} {part target : String} {parts : List String} : ¬avoided <+: heads l part →
      t.content? (heads l part) = some (.link target) → Outside t avoided 0 l (part :: parts)

/-- Whether a path stays outside depends on the links there alone. -/
theorem Outside.of_links
    (hlinks : ∀ k, ¬avoided <+: k → ∀ target, t'.content? k = some (.link target) ↔ t.content? k = some (.link target))
    (h : t.Outside avoided links l parts) : t'.Outside avoided links l parts := by
  induction h with
  | done => exact .done
  | onward hk hlink _ ih => exact .onward hk (fun target htarget => hlink target ((hlinks _ hk target).1 htarget)) ih
  | link hk hlink _ ih => exact .link hk ((hlinks _ hk _).2 hlink) ih
  | spent hk hlink => exact .spent hk ((hlinks _ hk _).2 hlink)

theorem eq_heads_of_step (h : t.step l part = .ok k) : k = heads l part := by
  obtain ⟨-, h⟩ := step_eq_ok_iff.1 h
  rw [heads, turn]
  split at h
  · rename_i hstays
    rw [if_pos hstays, h]
  · rename_i hmoves
    rw [if_neg hmoves]
    split at h
    · rename_i hup
      rw [if_pos hup, h]
    · rename_i hup
      rw [if_neg hup, h.2]

theorem step_congr_of_content (h : t'.content? l = t.content? l) : t'.step l part = t.step l part := by
  unfold step
  rw [h]

/-! ## Walks part by part -/

theorem walkAlong_nil : t.walkAlong true links l [] = .ok l := walkAlong_of_arrived links rfl

theorem walkAlong_cons_error {r : Refusal} (h : t.step l part = .error r) :
    t.walkAlong true links l (part :: parts) = .error r := walkAlong_of_error links (by rw [advance, h])

theorem walkAlong_cons_name (h : t.step l part = .ok k) (hlink : ∀ target, t.content? k ≠ some (.link target)) :
    t.walkAlong true links l (part :: parts) = t.walkAlong true links k parts := by
  have ha : t.advance true l (part :: parts) = t.advance true k parts := by
    rw [advance_cons h]
    split
    · rename_i target hway _
      exact absurd (way?_eq_link_iff.1 hway) (hlink target)
    · rfl
  conv_lhs => unfold walkAlong
  conv_rhs => unfold walkAlong
  rw [ha]

theorem advance_cons_link {target : String} (h : t.step l part = .ok k) (hlink : t.content? k = some (.link target)) :
    t.advance true l (part :: parts) = .ok (.met l target parts) := by
  rw [advance_cons h, way?_eq_link_iff.2 hlink, Bool.not_true, Bool.and_false]

theorem walkAlong_cons_spent {target : String} (h : t.step l part = .ok k)
    (hlink : t.content? k = some (.link target)) : t.walkAlong true 0 l (part :: parts) = .error .tooManyLinks := by
  rw [walkAlong, advance_cons_link h hlink]

theorem outside_start {target : String} (hl : ¬avoided <+: l) : ¬avoided <+: startOf l target := by
  rw [startOf]
  split
  · intro h
    exact hl (List.prefix_nil.1 h ▸ List.nil_prefix)
  · exact hl

/-- **A path that stays outside leads to the same place in trees that agree outside**, and that is outside. -/
theorem walkAlong_of_outside (hagree : AgreeOutside avoided t t') (hl : ¬avoided <+: l)
    (h : t.Outside avoided links l parts) :
    t'.walkAlong true links l parts = t.walkAlong true links l parts ∧
      ∀ k, t.walkAlong true links l parts = .ok k → ¬avoided <+: k := by
  induction h with
  | done =>
    rw [walkAlong_nil, walkAlong_nil]
    refine ⟨rfl, fun k hk => ?_⟩
    cases hk
    exact hl
  | @onward links l part parts hk hlink _ ih =>
    have hstep : t'.step l part = t.step l part := step_congr_of_content (hagree l hl)
    cases hs : t.step l part with
    | error r =>
      rw [walkAlong_cons_error hs, walkAlong_cons_error (hstep.trans hs)]
      exact ⟨rfl, fun _ hw => by cases hw⟩
    | ok next =>
      obtain rfl := eq_heads_of_step hs
      have hlink' : ∀ target, t'.content? (heads l part) ≠ some (.link target) := by
        rw [hagree _ hk]
        exact hlink
      rw [walkAlong_cons_name hs hlink, walkAlong_cons_name (hstep.trans hs) hlink']
      exact ih hk
  | @link links l part target parts hk hlink _ ih =>
    have hstep : t'.step l part = t.step l part := step_congr_of_content (hagree l hl)
    cases hs : t.step l part with
    | error r =>
      rw [walkAlong_cons_error hs, walkAlong_cons_error (hstep.trans hs)]
      exact ⟨rfl, fun _ hw => by cases hw⟩
    | ok next =>
      obtain rfl := eq_heads_of_step hs
      have hlink' := (hagree _ hk).trans hlink
      rw [walkAlong_of_met links (advance_cons_link hs hlink),
        walkAlong_of_met links (advance_cons_link (hstep.trans hs) hlink')]
      exact ih (outside_start hl)
  | @spent l part target parts hk hlink =>
    have hstep : t'.step l part = t.step l part := step_congr_of_content (hagree l hl)
    cases hs : t.step l part with
    | error r =>
      rw [walkAlong_cons_error hs, walkAlong_cons_error (hstep.trans hs)]
      exact ⟨rfl, fun _ hw => by cases hw⟩
    | ok next =>
      obtain rfl := eq_heads_of_step hs
      rw [walkAlong_cons_spent hs hlink, walkAlong_cons_spent (hstep.trans hs) ((hagree _ hk).trans hlink)]
      exact ⟨rfl, fun _ hw => by cases hw⟩

end Tree

namespace Disk

variable {d d' : Disk} {p : Path} {avoided : Location}

/-- A path leads over nothing that is an avoided location or below it. -/
structure Outside (d : Disk) (avoided : Location) (p : Path) : Prop where
  start : ¬avoided <+: d.startOf p
  way : d.tree.Outside avoided Tree.linkLimit (d.startOf p) p.parts

/-- **At the end of a path that stays outside, the same is read on disks that agree outside.** -/
theorem readBytes_of_outside (hagree : Tree.AgreeOutside avoided d.tree d'.tree) (hcurrent : d'.current = d.current)
    (h : d.Outside avoided p) : d'.readBytes p = d.readBytes p := by
  have hcontent : d'.content p = d.content p := by
    by_cases hshort : p.text.utf8ByteSize < pathLimit
    · obtain ⟨hwalk, hend⟩ := Tree.walkAlong_of_outside hagree h.start h.way
      have hstart : d'.startOf p = d.startOf p := by rw [startOf, startOf, hcurrent]
      rw [content, content, locate, locate, locateFrom_eq true hshort, locateFrom_eq true hshort, hstart, Tree.walk,
        Tree.walk, hwalk]
      cases hw : d.tree.walkAlong true Tree.linkLimit (d.startOf p) p.parts with
      | error r => rfl
      | ok l =>
        dsimp only
        rw [hagree l (hend l hw)]
    · have hlong := Nat.not_lt.1 hshort
      rw [content, content, locate, locate, locateFrom, locateFrom, if_pos hlong, if_pos hlong]
  rw [readBytes, readBytes, hcontent]

/-- A path stays outside when no link is added or taken away outside. -/
theorem Outside.of_links (h : d.Outside avoided p) (hcurrent : d'.current = d.current)
    (hlinks : ∀ k, ¬avoided <+: k → ∀ target,
      d'.tree.content? k = some (.link target) ↔ d.tree.content? k = some (.link target)) :
    d'.Outside avoided p := by
  have hstart : d'.startOf p = d.startOf p := by rw [startOf, startOf, hcurrent]
  exact ⟨hstart ▸ h.start, hstart ▸ h.way.of_links hlinks⟩

end Disk
end ElmAssay
