import ElmAssay.Proofs.Disk.Outside
import ElmAssay.Proofs.Disk.Store
import ElmAssay.Proofs.Manifest.InForce

/-!
# Workspaces on two disks

What an operation makes, writes and reads is its scope (`Scope`). Two disks are matched for a scope (`Scope.Matched`) if
they agree outside the workspace, have no link where something is written, and have directories at the same ones of these
places. Making the directories of the scope and writing its files end alike on matched disks, for the same cause if they
fail, and leave them matched (`alike_makeEach`, `Matched.write`): all that they change becomes the same kind of thing on
both (`Disk.Laid`). What is read outside the workspace is the same (`Matched.readBytes`).
-/

namespace ElmAssay

open Effect Path

/-! ## What is laid out on a disk -/

namespace Disk

variable {d d' : Disk} {ks : List Location} {file : Option Location} {k : Location} {p q : Path} {text : String}

/-- A disk that has directories at some places and maybe a file at one, and is else as it was. -/
structure Laid (ks : List Location) (file : Option Location) (d d' : Disk) : Prop where
  directory : ∀ k ∈ ks, d'.tree.content? k = some .directory
  placed : ∀ k ∈ file, ∃ bytes, d'.tree.content? k = some (.file bytes)
  kept : ∀ k, k ∉ ks → k ∉ file → d'.tree.content? k = d.tree.content? k
  current : d'.current = d.current

theorem Paved.laid (h : Paved q d d') : Laid (places [] q.parts) none d d' where
  directory := h.paved
  placed _ hk := by cases hk
  kept k hk _ := h.kept k hk
  current := h.current

theorem Stored.laid (hp : p.IsFilePath) (h : Stored p text d d') :
    Laid (places [] p.parent.parts) (some p.place) d d' where
  directory := h.paved
  placed k hk := by
    obtain ⟨bytes, hplaced, -⟩ := h.placed
    exact ⟨bytes, Option.mem_some.1 hk ▸ hplaced⟩
  kept k hk hfile := by
    refine h.kept k ?_
    rw [places_parent hp.parts, List.mem_append, List.mem_singleton]
    rintro (hmem | rfl)
    · exact hk hmem
    · exact hfile rfl
  current := h.current

namespace Laid

theorem isFree (h : Laid ks file d d') (hk : d.tree.IsFree k) (hfile : k ∉ file) : d'.tree.IsFree k := by
  by_cases hmem : k ∈ ks
  · exact .inr (h.directory k hmem)
  · rw [Tree.IsFree, h.kept k hmem hfile]
    exact hk

theorem noLink (h : Laid ks file d d') (hk : d.tree.NoLink k) : d'.tree.NoLink k := by
  intro target hlink
  by_cases hmem : k ∈ ks
  · cases (h.directory k hmem).symm.trans hlink
  · by_cases hfile : k ∈ file
    · obtain ⟨bytes, hbytes⟩ := h.placed k hfile
      cases hbytes.symm.trans hlink
    · rw [h.kept k hmem hfile] at hlink
      exact hk target hlink

/-- Where nothing takes the place of a link, the links are as they were. -/
theorem link_iff (h : Laid ks file d d') (hks : ∀ k ∈ ks, d.tree.NoLink k) (hfile : ∀ k ∈ file, d.tree.NoLink k)
    (target : String) : d'.tree.content? k = some (.link target) ↔ d.tree.content? k = some (.link target) := by
  by_cases hmem : k ∈ ks
  · exact ⟨fun hlink => absurd hlink (h.noLink (hks k hmem) target), fun hlink => absurd hlink (hks k hmem target)⟩
  · by_cases hk : k ∈ file
    · exact ⟨fun hlink => absurd hlink (h.noLink (hfile k hk) target), fun hlink => absurd hlink (hfile k hk target)⟩
    · rw [h.kept k hmem hk]

end Laid
end Disk

/-! ## Files below the root of a workspace -/

namespace Workspace

variable {w : Workspace} {p : Path}

theorem isRooted_child {q : Path} (hq : q.IsRooted) {name : String} (hname : IsProper name) : (q.child name).IsRooted where
  absolute := hq.absolute
  textual part hpart := by
    rcases List.mem_append.1 hpart with hpart | hpart
    · exact hq.textual part hpart
    · rw [List.mem_singleton.1 hpart]
      exact ⟨hname.1, hname.2.1⟩

theorem isFilePath_manifestPath (hw : w.root.IsRooted) : w.manifestPath.IsFilePath where
  rooted := isRooted_child hw isProper_manifestName
  proper := by
    rw [name_manifestPath]
    exact isProper_manifestName

theorem place_manifestPath (hw : w.root.IsRooted) : w.manifestPath.place = w.root.place ++ [manifestName] := by
  rw [(isFilePath_manifestPath hw).place, parent_manifestPath, name_manifestPath]

namespace HasModule

theorem up_not_mem {names : List String} (hnames : ∀ name ∈ names, IsProper name ∧ name ≠ manifestName) :
    up ∉ names := fun hm => (hnames up hm).1.2.2 rfl

/-- The manifest is not in the way of the file, unless it is in that of the root. -/
theorem manifest_not_mem (h : w.HasModule p) (hw : w.root.IsRooted)
    (hroot : w.manifestPath.place ∉ places [] w.root.parts) : w.manifestPath.place ∉ places [] p.parts := by
  obtain ⟨names, rfl, hnames⟩ := h.below
  rw [places_append, List.mem_append]
  rintro (hmem | hmem)
  · exact hroot hmem
  · obtain ⟨front, hfront, hplace⟩ := prefix_of_mem_places (up_not_mem hnames) hmem
    rw [place_manifestPath hw] at hplace
    have hname : front = [manifestName] := (List.append_cancel_left hplace).symm
    exact (hnames manifestName (hfront.subset (hname ▸ List.mem_cons_self))).2 rfl

end HasModule
end Workspace

/-! ## Scopes -/

/-- The workspace of an operation, the file of a module that it writes there, and the files that it reads elsewhere. -/
structure Scope where
  workspace : Workspace
  module? : Option Path
  sources : List Path

namespace Scope

/-- The location of the workspace. -/
def root (S : Scope) : Location := S.workspace.root.place

/-- The files that are written. -/
def files (S : Scope) : List Path := S.workspace.manifestPath :: S.module?.toList

/-- The directory around the file of the module. -/
def around (S : Scope) : List Path := (S.module?.map Path.parent).toList

/-- The directories that are made: those of the workspace, and the one around the file of the module. -/
def directories (S : Scope) : List Path := S.workspace.directories ++ S.around

/-- The places that directories and files lead over. -/
def used (S : Scope) : List Location := (S.directories ++ S.files).flatMap fun p => places [] p.parts

variable {S : Scope} {dirs dirs' : List Path} {d d' d₁ d₂ t₁ t₂ : Disk} {p q : Path} {text : String}
  {ks : List Location} {file : Option Location}

theorem places_subset_used (h : p ∈ S.directories ∨ p ∈ S.files) : places [] p.parts ⊆ S.used :=
  fun _ hk => List.mem_flatMap.2 ⟨p, List.mem_append.2 h, hk⟩

theorem exists_of_mem_around (h : q ∈ S.around) : ∃ p ∈ S.module?, q = p.parent := by
  obtain ⟨p, hp, rfl⟩ := Option.map_eq_some_iff.1 (Option.mem_toList.1 h)
  exact ⟨p, hp, rfl⟩

/-- The root of the workspace is a path from the top, and the file of the module is below it. -/
structure IsSound (S : Scope) : Prop where
  root : S.workspace.root.IsRooted
  module : ∀ p ∈ S.module?, S.workspace.HasModule p

/-- A disk on which directories of a scope can be made and its files can be written: the places of the directories are free,
and where files are written there is no link, and room for a temporary file. -/
structure Ready (S : Scope) (dirs : List Path) (d : Disk) : Prop where
  free : ∀ q ∈ dirs, ∀ k ∈ places [] q.parts, d.tree.IsFree k
  noLink : ∀ p ∈ S.files, d.tree.NoLink p.place
  room : ∀ p ∈ S.files, Disk.HasRoom S.used d p

/-- Two disks that agree outside the workspace and at the kinds of what is in it. -/
structure Matched (S : Scope) (dirs : List Path) (d₁ d₂ : Disk) : Prop where
  sound : S.IsSound
  current : d₂.current = d₁.current
  agree : Tree.AgreeOutside S.root d₁.tree d₂.tree
  outside : ∀ p ∈ S.sources, d₁.Outside S.root p
  status : ∀ p ∈ S.files, d₂.tree.hasDirectory p.place = d₁.tree.hasDirectory p.place
  left : S.Ready dirs d₁
  right : S.Ready dirs d₂

theorem Ready.laid (h : S.Ready dirs d) (hlaid : Disk.Laid ks file d d') (hks : ks ⊆ S.used)
    (hfile : ∀ k ∈ file, k ∈ S.used) (hdirs : dirs' ⊆ dirs) (hclear : ∀ q ∈ dirs', ∀ k ∈ file, k ∉ places [] q.parts) :
    S.Ready dirs' d' where
  free q hq k hk := hlaid.isFree (h.free q (hdirs hq) k hk) fun hmem => hclear q hq k hmem hk
  noLink p hp := hlaid.noLink (h.noLink p hp)
  room p hp := (h.room p hp).of_kept fun k hk => hlaid.kept k (fun hmem => hk (hks hmem)) fun hmem => hk (hfile k hmem)

/-- Matched disks on which the same is laid out stay matched. -/
theorem Matched.laid (h : S.Matched dirs d₁ d₂) (h₁ : Disk.Laid ks file d₁ t₁) (h₂ : Disk.Laid ks file d₂ t₂)
    (hks : ks ⊆ S.used) (hfree : ∀ k ∈ ks, d₁.tree.IsFree k)
    (hfile : ∀ k ∈ file, k ∈ S.used ∧ S.root <+: k ∧ d₁.tree.NoLink k) (hdirs : dirs' ⊆ dirs)
    (hclear : ∀ q ∈ dirs', ∀ k ∈ file, k ∉ places [] q.parts) : S.Matched dirs' t₁ t₂ where
  sound := h.sound
  current := by rw [h₂.current, h₁.current, h.current]
  agree k hk := by
    by_cases hmem : k ∈ ks
    · rw [h₁.directory k hmem, h₂.directory k hmem]
    · have hother : k ∉ file := fun hm => hk (hfile k hm).2.1
      rw [h₁.kept k hmem hother, h₂.kept k hmem hother]
      exact h.agree k hk
  outside p hp := (h.outside p hp).of_links h₁.current fun k _ =>
    h₁.link_iff (fun k hk => (hfree k hk).noLink) fun k hk => (hfile k hk).2.2
  status p hp := by
    rw [Tree.hasDirectory, Tree.hasDirectory]
    by_cases hmem : p.place ∈ ks
    · rw [h₁.directory _ hmem, h₂.directory _ hmem]
    · by_cases hk : p.place ∈ file
      · obtain ⟨bytes₁, hbytes₁⟩ := h₁.placed _ hk
        obtain ⟨bytes₂, hbytes₂⟩ := h₂.placed _ hk
        rw [hbytes₁, hbytes₂]
        rfl
      · rw [h₁.kept _ hmem hk, h₂.kept _ hmem hk]
        exact h.status p hp
  left := h.left.laid h₁ hks (fun k hk => (hfile k hk).1) hdirs hclear
  right := h.right.laid h₂ hks (fun k hk => (hfile k hk).1) hdirs hclear

/-- Two failures with the same cause. -/
def SameCause (x₁ x₂ : Failure) (_ _ : Disk) : Prop := x₁.cause = x₂.cause

/-! ## Directories -/

/-- What comes of writing a file on two disks: it is written on both, or cannot be for the same cause. -/
def BothStored (p : Path) (text : String) (d₁ d₂ : Disk) : Prop :=
  (∃ x₁ x₂ t₁ t₂, Disk.writeIfChanged p text d₁ = (.error x₁, t₁) ∧ Disk.writeIfChanged p text d₂ = (.error x₂, t₂) ∧
      x₁.cause = x₂.cause) ∨
    ∃ changed₁ changed₂ t₁ t₂, Disk.writeIfChanged p text d₁ = (.ok changed₁, t₁) ∧
      Disk.writeIfChanged p text d₂ = (.ok changed₂, t₂) ∧ p.fault = none ∧ Disk.Stored p text d₁ t₁ ∧
      Disk.Stored p text d₂ t₂

/-- **On matched disks a file is written on both, or cannot be written for the same cause.** -/
theorem Matched.write (h : S.Matched dirs d₁ d₂) (hp : p.IsFilePath) (hmem : p ∈ S.files) (hdir : p.parent ∈ dirs)
    (text : String) : BothStored p text d₁ d₂ := by
  have hused : places [] p.parent.parts ⊆ S.used :=
    fun k hk => places_subset_used (.inr hmem) (places_parent_subset p hk)
  have h₁ := Disk.writeIfChanged_free hp (h.left.free _ hdir) (h.left.noLink p hmem) hused (h.left.room p hmem) text
  have h₂ := Disk.writeIfChanged_free hp (h.right.free _ hdir) (h.right.noLink p hmem) hused (h.right.room p hmem) text
  have hsame : d₂.refusal p = d₁.refusal p := by rw [Disk.refusal, Disk.refusal, h.status p hmem]
  cases hrefusal : d₁.refusal p with
  | some x =>
    obtain ⟨e₁, t₁, hrun₁, hcause₁⟩ := h₁.error hrefusal
    obtain ⟨e₂, t₂, hrun₂, hcause₂⟩ := h₂.error (hsame.trans hrefusal)
    exact .inl ⟨e₁, e₂, t₁, t₂, hrun₁, hrun₂, hcause₁.trans hcause₂.symm⟩
  | none =>
    obtain ⟨changed₁, t₁, hrun₁, hstored₁⟩ := h₁.ok hrefusal
    obtain ⟨changed₂, t₂, hrun₂, hstored₂⟩ := h₂.ok (hsame.trans hrefusal)
    exact .inr ⟨changed₁, changed₂, t₁, t₂, hrun₁, hrun₂, Disk.fault_of_refusal_eq_none hrefusal, hstored₁, hstored₂⟩

/-- Matched disks on which a file was written stay matched, for the directories that the file is not in the way of. -/
theorem Matched.stored (h : S.Matched dirs d₁ d₂) (hp : p.IsFilePath) (hmem : p ∈ S.files) (hdir : p.parent ∈ dirs)
    (hbelow : S.root <+: p.place) (h₁ : Disk.Stored p text d₁ t₁) (h₂ : Disk.Stored p text d₂ t₂) (hdirs : dirs' ⊆ dirs)
    (hclear : ∀ q ∈ dirs', p.place ∉ places [] q.parts) : S.Matched dirs' t₁ t₂ := by
  have hplaces := places_subset_used (S := S) (.inr hmem)
  refine h.laid (h₁.laid hp) (h₂.laid hp) (fun k hk => hplaces (places_parent_subset p hk)) (h.left.free _ hdir)
    (fun k hk => ?_) hdirs fun q hq k hk => Option.mem_some.1 hk ▸ hclear q hq
  obtain rfl := Option.mem_some.1 hk
  exact ⟨hplaces (place_mem_places hp.parts), hbelow, h.left.noLink p hmem⟩

/-- **On matched disks the same is read outside the workspace.** -/
theorem Matched.readBytes (h : S.Matched dirs d₁ d₂) (hp : p ∈ S.sources) : d₂.readBytes p = d₁.readBytes p :=
  Disk.readBytes_of_outside h.agree h.current (h.outside p hp)

/-! ## What operations do in a workspace -/

/-- **On matched disks the manifest is written alike**, and then only the directory around the file of the module is
to be made. -/
theorem Matched.writeManifest (h : S.Matched S.directories d₁ d₂) (text : String) :
    (∃ x₁ x₂ t₁ t₂, Disk.writeIfChanged S.workspace.manifestPath text d₁ = (.error x₁, t₁) ∧
        Disk.writeIfChanged S.workspace.manifestPath text d₂ = (.error x₂, t₂) ∧ x₁.cause = x₂.cause) ∨
      ∃ changed₁ changed₂ t₁ t₂, Disk.writeIfChanged S.workspace.manifestPath text d₁ = (.ok changed₁, t₁) ∧
        Disk.writeIfChanged S.workspace.manifestPath text d₂ = (.ok changed₂, t₂) ∧
        S.Matched S.around t₁ t₂ := by
  have hroot := h.sound.root
  have hp := Workspace.isFilePath_manifestPath hroot
  have hmem : S.workspace.manifestPath ∈ S.files := List.mem_cons_self
  have hparent : S.workspace.manifestPath.parent = S.workspace.root := Workspace.parent_manifestPath _
  have hdir : S.workspace.manifestPath.parent ∈ S.directories := by
    rw [hparent]
    exact List.mem_append_left _ List.mem_cons_self
  rcases h.write hp hmem hdir text with hfailed | ⟨changed₁, changed₂, t₁, t₂, h₁, h₂, -, hstored₁, hstored₂⟩
  · exact .inl hfailed
  · refine .inr ⟨changed₁, changed₂, t₁, t₂, h₁, h₂, ?_⟩
    refine h.stored hp hmem hdir ?_ hstored₁ hstored₂ (List.subset_append_right _ _) fun q hq => ?_
    · rw [Workspace.place_manifestPath hroot]
      exact List.prefix_append _ _
    · obtain ⟨p, hmodule, rfl⟩ := exists_of_mem_around hq
      have hnot := hstored₁.place_not_mem
      rw [hparent] at hnot
      exact fun hk => (h.sound.module p hmodule).manifest_not_mem hroot hnot (places_parent_subset p hk)

end Scope
end ElmAssay
