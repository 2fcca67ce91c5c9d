import ElmAssay.Disk.Tree

/-!
# What a walk depends on

A walk looks at directories and links alone, and where directories are added every path that led somewhere still leads
there (`walk_eq_ok_of_widens`): so two trees with the same directories and the same links lead every path to the same
location (`walk_eq_ok_congr`). A file may be put where no directory and no link was, be filled anew or be taken away.

Where a file takes the place of a link, a walk that went over the link stops (`walkAlong_of_blocked`): it ends at the file
or is refused because the file is no directory.

A path leads to where its last part leads from the location of the parts before it (`walk_append_part`).
-/

namespace ElmAssay
namespace Tree

variable {t t' : Tree} {l k : Location} {follows : Bool}

/-! ## Contents -/

theorem content?_create_self {c : Content} {rights : Nat} {time : Int} (h : l ≠ []) :
    (t.create l c rights time).content? l = some c := by
  rw [content?, create, get?_put_self h]
  rfl

theorem content?_create_of_ne {c : Content} {rights : Nat} {time : Int} (h : k ≠ l) :
    (t.create l c rights time).content? k = t.content? k := by
  rw [content?, create, get?_put_of_ne h]
  rfl

theorem content?_erase_self (h : l ≠ []) : (t.erase l).content? l = none := by
  rw [content?, get?_erase_self h]
  rfl

theorem content?_erase_of_ne (h : k ≠ l) : (t.erase l).content? k = t.content? k := by
  rw [content?, get?_erase_of_ne h]
  rfl

theorem content?_eq_none_iff : t.content? l = none ↔ t.get? l = none := Option.map_eq_none_iff

theorem hasDirectory_iff : t.hasDirectory l = true ↔ t.content? l = some .directory := by
  rw [hasDirectory, beq_iff_eq]

theorem hasDirectory_eq_false_iff : t.hasDirectory l = false ↔ t.content? l ≠ some .directory := by
  rw [← Bool.not_eq_true, hasDirectory_iff]

/-- A tree of which no entry is a link has no link. -/
theorem content?_ne_link_of_entries (h : (t.entries.all fun e => !(e.2.content matches .link _)) = true)
    (l : Location) (target : String) : t.content? l ≠ some (.link target) := by
  intro hlink
  rw [content?, Option.map_eq_some_iff] at hlink
  obtain ⟨e, he, hcontent⟩ := hlink
  rw [get?] at he
  split at he
  · cases he
    cases hcontent
  · obtain ⟨front, back, hentries, -⟩ := List.lookup_eq_some_iff.1 he
    have hall := List.all_eq_true.1 h (l, e) (by rw [hentries]; simp)
    rw [hcontent] at hall
    cases hall

/-! ## Directories and links -/

/-- The directory or the link at a location, over which a walk goes on. -/
def way? (t : Tree) (l : Location) : Option Content := (t.content? l).filter fun c => c matches .directory | .link _

theorem way?_eq_directory_iff : t.way? l = some .directory ↔ t.content? l = some .directory := by
  rw [way?, Option.filter_eq_some_iff]
  exact ⟨And.left, fun h => ⟨h, rfl⟩⟩

theorem way?_eq_link_iff {target : String} : t.way? l = some (.link target) ↔ t.content? l = some (.link target) := by
  rw [way?, Option.filter_eq_some_iff]
  exact ⟨And.left, fun h => ⟨h, rfl⟩⟩

theorem way?_eq_none_of_file {bytes : Bytes} (h : t.content? l = some (.file bytes)) : t.way? l = none := by
  rw [way?, h]
  rfl

theorem way?_eq_none_of_none (h : t.content? l = none) : t.way? l = none := by
  rw [way?, h]
  rfl

theorem way?_congr (h : t.content? l = t'.content? l) : t.way? l = t'.way? l := by rw [way?, way?, h]

/-- Two trees with the same directories and the same links. -/
def SameWays (t t' : Tree) : Prop := ∀ l, t.way? l = t'.way? l

theorem SameWays.symm (h : SameWays t t') : SameWays t' t := fun l => (h l).symm

/-- A tree has the directories and the links of another, and maybe directories where no way was. -/
def Widens (t t' : Tree) : Prop := ∀ l, t'.way? l = t.way? l ∨ (t.way? l = none ∧ t'.way? l = some .directory)

theorem SameWays.widens (h : SameWays t t') : Widens t t' := fun l => .inl (h l).symm

theorem Widens.refl (t : Tree) : Widens t t := fun _ => .inl rfl

theorem Widens.trans {t'' : Tree} (h : Widens t t') (h' : Widens t' t'') : Widens t t'' := by
  intro l
  rcases h l with hl | ⟨hl, hl'⟩
  · rw [← hl]
    exact h' l
  · rcases h' l with hk | ⟨hk, -⟩
    · exact .inr ⟨hl, hk.trans hl'⟩
    · cases hl'.symm.trans hk

theorem Widens.directory (h : Widens t t') (hd : t.content? l = some .directory) : t'.content? l = some .directory := by
  rw [← way?_eq_directory_iff] at hd ⊢
  rcases h l with hl | ⟨-, hl⟩
  · rw [hl, hd]
  · exact hl

/-- No link is added or taken away. -/
theorem Widens.link_iff (h : Widens t t') {target : String} :
    t'.content? l = some (.link target) ↔ t.content? l = some (.link target) := by
  rw [← way?_eq_link_iff, ← way?_eq_link_iff]
  rcases h l with hl | ⟨hl, hl'⟩
  · rw [hl]
  · simp [hl, hl']

/-! ## Steps -/

/-- A step that succeeds starts in a directory, and where it leads depends on the part alone. -/
theorem step_eq_ok_iff {part : String} : t.step l part = .ok k ↔ t.content? l = some .directory ∧
    (if part = "" ∨ part = Path.here then k = l
      else if part = Path.up then k = l.dropLast
      else part.utf8ByteSize ≤ nameLimit ∧ k = l ++ [part]) := by
  unfold step
  cases hc : t.content? l with
  | none => simp
  | some c =>
    cases c with
    | file bytes => simp
    | link target => simp
    | directory =>
      simp only [true_and]
      split
      · simp only [Except.ok.injEq, eq_comm]
      · split
        · simp only [Except.ok.injEq, eq_comm]
        · split
          · simp only [reduceCtorEq, false_iff]
            omega
          · rw [Except.ok.injEq, eq_comm]
            exact ⟨fun h => ⟨by omega, h⟩, And.right⟩

theorem content?_of_step {part : String} (h : t.step l part = .ok k) : t.content? l = some .directory :=
  (step_eq_ok_iff.1 h).1

theorem step_congr {part : String} (h : t.content? l = some .directory) (h' : t'.content? l = some .directory) :
    t.step l part = t'.step l part := by
  unfold step
  rw [h, h']

theorem step_file {part : String} {bytes : Bytes} (h : t.content? l = some (.file bytes)) :
    t.step l part = .error .notDirectory := by
  unfold step
  rw [h]

/-! ## Walks -/

theorem walkAlong_of_arrived {parts : List String} (links : Nat) (h : t.advance follows l parts = .ok (.arrived k)) :
    t.walkAlong follows links l parts = .ok k := by
  unfold walkAlong
  rw [h]

theorem walkAlong_of_error {parts : List String} {r : Refusal} (links : Nat)
    (h : t.advance follows l parts = .error r) : t.walkAlong follows links l parts = .error r := by
  unfold walkAlong
  rw [h]

/-- A walk that meets a link goes on along the link, with one link less to follow. -/
theorem walkAlong_of_met {parts rest : List String} {directory : Location} {target : String} (links : Nat)
    (h : t.advance follows l parts = .ok (.met directory target rest)) :
    t.walkAlong follows (links + 1) l parts =
      t.walkAlong follows links (startOf directory target) (partsOf target ++ rest) := by
  rw [walkAlong, h]

/-! ## More directories -/

/-- What the walk does at the place that a step led to: it follows a link that is not at the end, or at the end if it is
to be followed there, and else goes on. -/
theorem advance_cons {part : String} {parts : List String} (h : t.step l part = .ok k) :
    t.advance follows l (part :: parts) =
      match t.way? k, parts.isEmpty && !follows with
      | some (.link target), false => .ok (.met l target parts)
      | _, _ => t.advance follows k parts := by
  rw [advance, h]
  dsimp only
  cases hc : t.content? k with
  | none => rw [way?_eq_none_of_none hc]
  | some c =>
    cases c with
    | directory => rw [way?_eq_directory_iff.2 hc]
    | file bytes => rw [way?_eq_none_of_file hc]
    | link target =>
      cases parts.isEmpty && !follows <;> simp only [way?_eq_link_iff.2 hc]

/-- The way up to the first link that is followed is the same in a tree with more directories. -/
theorem advance_eq_ok_of_widens (h : Widens t t') : ∀ (parts : List String) (l : Location) {halt : Halt},
    t.advance follows l parts = .ok halt → t'.advance follows l parts = .ok halt
  | [], _, _, hw => hw
  | part :: parts, l, halt, hw => by
    cases hs : t.step l part with
    | error r => rw [advance, hs] at hw; cases hw
    | ok k =>
      have hd : t.content? l = some .directory := content?_of_step hs
      have hs' : t'.step l part = .ok k := step_congr hd (h.directory hd) ▸ hs
      rw [advance_cons hs] at hw
      rw [advance_cons hs']
      rcases h k with hk | ⟨hk, hk'⟩
      · rw [hk]
        split at hw
        · exact hw
        · exact advance_eq_ok_of_widens h parts k hw
      · rw [hk] at hw
        rw [hk']
        exact advance_eq_ok_of_widens h parts k hw

theorem walkAlong_eq_ok_of_widens (h : Widens t t') (links : Nat) (l : Location) (parts : List String)
    (hw : t.walkAlong follows links l parts = .ok k) : t'.walkAlong follows links l parts = .ok k := by
  fun_induction walkAlong t follows links l parts with
  | case1 => cases hw
  | case2 links l parts k' ha =>
    cases hw
    exact walkAlong_of_arrived links (advance_eq_ok_of_widens h parts l ha)
  | case3 => cases hw
  | case4 l parts _ _ _ ha links ih =>
    rw [walkAlong_of_met links (advance_eq_ok_of_widens h parts l ha)]
    exact ih hw

/-- **A path that leads somewhere leads there also when directories are added.** -/
theorem walk_eq_ok_of_widens (h : Widens t t') {l : Location} {parts : List String}
    (hw : t.walk follows l parts = .ok k) : t'.walk follows l parts = .ok k :=
  walkAlong_eq_ok_of_widens h linkLimit l parts hw

/-- **Trees with the same directories and links lead every path to the same location.** -/
theorem walk_eq_ok_congr (h : SameWays t t') (l : Location) (parts : List String) :
    t.walk follows l parts = .ok k ↔ t'.walk follows l parts = .ok k :=
  ⟨walk_eq_ok_of_widens h.widens, walk_eq_ok_of_widens h.symm.widens⟩

/-! ## A file in the place of a link -/

section Blocked

variable {bytes : Bytes}

/-- The way up to the first link that is followed, in a tree where a file stands at a location that was no directory:
it is the same, or it stops at the file. -/
theorem advance_of_blocked (hl : t.content? l ≠ some .directory) (hf : t'.content? l = some (.file bytes))
    (hk : ∀ k, k ≠ l → t.way? k = t'.way? k) : ∀ (parts : List String) (from' : Location) {halt : Halt},
    t.advance follows from' parts = .ok halt →
      t'.advance follows from' parts = .ok halt ∨ t'.advance follows from' parts = .error .notDirectory ∨
        t'.advance follows from' parts = .ok (.arrived l)
  | [], _, _, hw => .inl hw
  | part :: parts, from', halt, hw => by
    cases hs : t.step from' part with
    | error r => rw [advance, hs] at hw; cases hw
    | ok next =>
      have hd : t.content? from' = some .directory := content?_of_step hs
      have hne : from' ≠ l := fun e => hl (e ▸ hd)
      have hd' : t'.content? from' = some .directory :=
        way?_eq_directory_iff.1 (hk from' hne ▸ way?_eq_directory_iff.2 hd)
      have hs' : t'.step from' part = .ok next := step_congr hd hd' ▸ hs
      rw [advance_cons hs] at hw
      rw [advance_cons hs']
      by_cases hnext : next = l
      · -- the walk has come to the file, which is its end or refuses the next step
        rw [hnext, way?_eq_none_of_file hf]
        cases parts with
        | nil => exact .inr (.inr rfl)
        | cons second parts => exact .inr (.inl (by rw [advance, step_file hf]))
      · rw [← hk next hnext]
        split at hw
        · exact .inl hw
        · exact advance_of_blocked hl hf hk parts next hw

/-- A walk in a tree where a file stands at a location that was no directory: it is the same, or it stops at the
file. -/
theorem walkAlong_of_blocked (hl : t.content? l ≠ some .directory) (hf : t'.content? l = some (.file bytes))
    (hk : ∀ k, k ≠ l → t.way? k = t'.way? k) (links : Nat) (from' : Location) (parts : List String)
    (hw : t.walkAlong follows links from' parts = .ok k) :
    t'.walkAlong follows links from' parts = .ok k ∨ t'.walkAlong follows links from' parts = .error .notDirectory ∨
      t'.walkAlong follows links from' parts = .ok l := by
  fun_induction walkAlong t follows links from' parts with
  | case1 => cases hw
  | case2 links from' parts k' ha =>
    cases hw
    rcases advance_of_blocked hl hf hk parts from' ha with h | h | h
    · exact .inl (walkAlong_of_arrived links h)
    · exact .inr (.inl (walkAlong_of_error links h))
    · exact .inr (.inr (walkAlong_of_arrived links h))
  | case3 => cases hw
  | case4 from' parts _ _ _ ha links ih =>
    rcases advance_of_blocked hl hf hk parts from' ha with h | h | h
    · rw [walkAlong_of_met links h]
      exact ih hw
    · exact .inr (.inl (walkAlong_of_error _ h))
    · exact .inr (.inr (walkAlong_of_arrived _ h))

end Blocked

/-! ## Links at the end -/

theorem advance_false : ∀ (parts : List String) (l : Location),
    t.advance false l parts = t.advance true l parts ∨
      ∃ k target, t.advance false l parts = .ok (.arrived k) ∧ t.content? k = some (.link target)
  | [], _ => .inl rfl
  | part :: parts, l => by
    cases hs : t.step l part with
    | error r => exact .inl (by rw [advance, advance, hs])
    | ok next =>
      rw [advance_cons hs, advance_cons hs]
      rw [Bool.not_true, Bool.and_false, Bool.not_false, Bool.and_true]
      cases parts with
      | nil =>
        cases hw : t.way? next with
        | none => exact .inl rfl
        | some c =>
          cases c with
          | directory => exact .inl rfl
          | file bytes => exact .inl rfl
          | link target => exact .inr ⟨next, target, rfl, way?_eq_link_iff.1 hw⟩
      | cons second parts =>
        rw [List.isEmpty_cons]
        split
        · exact .inl rfl
        · exact advance_false (second :: parts) next

/-- A walk that does not follow a link at its end does what the one that does would do, or ends at a link. -/
theorem walkAlong_false (links : Nat) (l : Location) (parts : List String) :
    t.walkAlong false links l parts = t.walkAlong true links l parts ∨
      ∃ k target, t.walkAlong false links l parts = .ok k ∧ t.content? k = some (.link target) := by
  induction links generalizing l parts with
  | zero =>
    rcases advance_false (t := t) parts l with h | ⟨k, target, h, hk⟩
    · rw [walkAlong, walkAlong, h]
      exact .inl rfl
    · exact .inr ⟨k, target, walkAlong_of_arrived 0 h, hk⟩
  | succ links ih =>
    rcases advance_false (t := t) parts l with h | ⟨k, target, h, hk⟩
    · rw [walkAlong, walkAlong, h]
      split
      · exact .inl rfl
      · exact .inl rfl
      · exact ih _ _
    · exact .inr ⟨k, target, walkAlong_of_arrived _ h, hk⟩

/-! ## One part more -/

/-- The way along parts with one part more goes on from the end of the way without it, or stops at the same link. -/
theorem advance_append {part : String} : ∀ (parts : List String) (l : Location),
    t.advance follows l (parts ++ [part]) =
      match t.advance true l parts with
      | .error r => .error r
      | .ok (.arrived k) => t.advance follows k [part]
      | .ok (.met directory target rest) => .ok (.met directory target (rest ++ [part]))
  | [], _ => rfl
  | first :: parts, l => by
    cases hs : t.step l first with
    | error r => simp only [List.cons_append, advance, hs]
    | ok next =>
      have hne : (parts ++ [part]).isEmpty = false := by simp
      simp only [List.cons_append, advance_cons hs, hne, Bool.not_true, Bool.and_false, Bool.false_and]
      cases t.way? next with
      | none => exact advance_append parts next
      | some c =>
        cases c with
        | link target => rfl
        | directory => exact advance_append parts next
        | file bytes => exact advance_append parts next

/-- A walk with one part more goes on from where the walk without it ends, with the links that are left. -/
theorem walkAlong_append (follows : Bool) (part : String) (links : Nat) (l : Location) (parts : List String)
    (hw : t.walkAlong true links l parts = .ok k) :
    ∃ left, t.walkAlong follows links l (parts ++ [part]) = t.walkAlong follows left k [part] := by
  fun_induction walkAlong t true links l parts with
  | case1 => cases hw
  | case2 links l parts k' ha =>
    cases hw
    refine ⟨links, ?_⟩
    unfold walkAlong
    rw [advance_append, ha]
  | case3 => cases hw
  | case4 l parts _ _ _ ha links ih =>
    obtain ⟨left, hleft⟩ := ih hw
    refine ⟨left, ?_⟩
    rw [walkAlong_of_met links (by rw [advance_append, ha]), ← List.append_assoc]
    exact hleft

/-- A walk with one part more that succeeds has gone along the parts before it. -/
theorem walkAlong_of_append (follows : Bool) (part : String) (links : Nat) (l : Location) (parts : List String)
    (hw : t.walkAlong follows links l (parts ++ [part]) = .ok k) :
    ∃ directory, t.walkAlong true links l parts = .ok directory := by
  fun_induction walkAlong t true links l parts with
  | case1 links l parts r ha =>
    rw [walkAlong_of_error links (by rw [advance_append, ha])] at hw
    cases hw
  | case2 links l parts k' ha => exact ⟨k', rfl⟩
  | case3 l parts directory target rest ha =>
    rw [walkAlong, advance_append, ha] at hw
    cases hw
  | case4 l parts directory target rest ha links ih =>
    rw [walkAlong_of_met links (by rw [advance_append, ha]), ← List.append_assoc] at hw
    exact ih hw

theorem walkAlong_single {part : String} (links : Nat) (hs : t.step l part = .ok k)
    (h : follows = true → ∀ target, t.content? k ≠ some (.link target)) :
    t.walkAlong follows links l [part] = .ok k := by
  have ha : t.advance follows l [part] = .ok (.arrived k) := by
    rw [advance_cons hs]
    split
    · rename_i target hlink hend
      rw [List.isEmpty_nil, Bool.true_and, Bool.not_eq_false'] at hend
      exact absurd (way?_eq_link_iff.1 hlink) (h hend target)
    · rfl
  exact walkAlong_of_arrived links ha

/-- A path leads to where its last part leads from the location of the parts before it, unless a link is to be followed
there. -/
theorem walk_append_part {part : String} {parts : List String} {next : Location}
    (h : t.walk true l parts = .ok k) (hs : t.step k part = .ok next)
    (hlink : follows = true → ∀ target, t.content? next ≠ some (.link target)) :
    t.walk follows l (parts ++ [part]) = .ok next := by
  obtain ⟨left, hl⟩ := walkAlong_append follows part linkLimit l parts h
  rw [walk, hl]
  exact walkAlong_single left hs hlink

/-- A path that does not go over its last part as a link is refused where the step with the last part is. -/
theorem walk_append_part_error {part : String} {parts : List String} {r : Refusal}
    (h : t.walk true l parts = .ok k) (hs : t.step k part = .error r) :
    t.walk follows l (parts ++ [part]) = .error r := by
  obtain ⟨left, hl⟩ := walkAlong_append follows part linkLimit l parts h
  have ha : t.advance follows k [part] = .error r := by rw [advance, hs]
  rw [walk, hl]
  exact walkAlong_of_error left ha

end Tree
end ElmAssay
