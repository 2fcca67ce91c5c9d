import ElmAssay.Proofs.Engine.Manifest

/-!
# A manifest is written once

While the manifest of a project does not change, the flows that go with it write the manifest of the workspace at most
once, and it is the first of them that does (`materialized_once`): after it the manifest is in force, each flow finds the
same text again, and what the flow writes besides leaves the manifest as it is (`settled_again`). If the first flow
cannot prepare the workspace, neither can any other (`prepare_failed`). This holds for every manifest, since no text
of a manifest has a carriage return, and only these are read as something else than what was written.

Behind a link a check may change what is read as the manifest, and the next flow writes it
(`exists_materialized_later`).
-/

namespace ElmAssay.Engine

open Effect

variable {σ : Type} {e : Engine σ} {d d' d₁ : Disk} {w : Workspace} {l : Location} {text : String}

/-- The state after several flows, one after the other. -/
def afterAll (e : Engine σ) (st : EngineState σ) (flows : List Flow) : EngineState σ := flows.foldl e.after st

theorem afterAll_snoc (e : Engine σ) (st : EngineState σ) (flows : List Flow) (f : Flow) :
    e.afterAll st (flows ++ [f]) = e.after (e.afterAll st flows) f := by
  rw [afterAll, List.foldl_append]
  rfl

/-! ## A flow that fails to prepare -/

/-- A workspace that could not be prepared with its manifest cannot be prepared on the next attempt, which changes
nothing. -/
theorem prepare_failed {standalone : Bool} {x : Failure} (h : e.prepare standalone d = (.error x, d')) :
    ∃ x', e.prepare standalone d' = (.error x', d') := by
  rcases prepare_eq_error h with hensure | ⟨w, hensure⟩
  · obtain ⟨x', hx'⟩ := Workspace.ensure_failed hensure
    exact ⟨x', by rw [prepare_run, hx']⟩
  · -- the directories are there by now, and what follows is what failed
    have hagain := Workspace.ensure_again hensure (.refl d')
    refine ⟨x, ?_⟩
    rw [prepare_run, hensure] at h
    rw [prepare_run, hagain]
    exact h

theorem prepare_of_materialize {changed : Bool} {d₂ : Disk}
    (hensure : Workspace.ensure e.project e.config.workspaceDirectory d = (.ok w, d₁))
    (h : w.materialize e.manifestPath d₁ = (.ok changed, d₂)) : e.prepare false d = (.ok w, d₂) := by
  rw [prepare, bind_of_ok hensure, if_neg Bool.false_ne_true, bind_of_ok h]
  rfl

theorem grown_of_prepare_eq_error {standalone : Bool} {x : Failure} (h : e.prepare standalone d = (.error x, d')) :
    Disk.Grown d d' := by
  have hgrown := Workspace.ensure_grown e.project e.config.workspaceDirectory d
  rcases prepare_eq_error h with hensure | ⟨w, hensure⟩
  · rw [hensure] at hgrown
    exact hgrown
  · rw [hensure] at hgrown
    exact hgrown

/-! ## A flow after the manifest is settled -/

/-- **Where a manifest is settled and the manifest of the project is what it was, it is not written again.** -/
theorem settled_again {count : Nat} (hensure : Workspace.ensure e.project e.config.workspaceDirectory d = (.ok w, d₁))
    (htext : w.manifestText false e.manifestPath d₁ = .ok text) (h : Settled w text l d₁ count d')
    (hsource : d'.readBytes e.manifestPath = d₁.readBytes e.manifestPath) :
    Workspace.ensure e.project e.config.workspaceDirectory d' = (.ok w, d') ∧
      w.materialize e.manifestPath d' = (.ok false, d') := by
  refine ⟨Workspace.ensure_again hensure h.widens, ?_⟩
  have hsame : w.manifestText false e.manifestPath d' = .ok text := by
    rw [← htext]
    exact w.manifestText_congr hsource h.widens.current.symm false
  have hrun := w.materialize_run false e.manifestPath d'
  rw [if_neg Bool.false_ne_true, hsame] at hrun
  rw [hrun]
  exact h.inForce.writeIfChanged

/-! ## Runs -/

/-- **The manifest of a workspace is written at most once, by the first flow.** While the bytes of the manifest of the
project stay the same, all flows after the first find the manifest as it is to be, whether they succeed or fail. -/
theorem materialized_once (hkeeps : e.oracle.KeepsDisk) {st : EngineState σ} {m : Manifest}
    (hload : Manifest.load st.bench.disk e.manifestPath = .ok m) (hfree : e.LinkFree st.bench.disk)
    {first : Flow} {rest : List Flow} (hflows : ∀ f ∈ first :: rest, f.standalone = false)
    (hsource : ∀ done, done <+: first :: rest →
      (e.afterAll st done).bench.disk.readBytes e.manifestPath = st.bench.disk.readBytes e.manifestPath) :
    ∀ w, e.workspace st.bench.disk = .ok w →
      (∃ k ≤ 1, ∀ later, later <+: rest →
        (e.afterAll st (first :: later)).bench.disk.writes.count w.manifestPath =
          st.bench.disk.writes.count w.manifestPath + k) ∧
      ∀ later, later <+: rest → ∀ d₁,
        Workspace.ensure e.project e.config.workspaceDirectory (e.afterAll st (first :: later)).bench.disk =
          (.ok w, d₁) →
        ∀ changed d₂, w.materialize e.manifestPath d₁ = (.ok changed, d₂) → changed = false := by
  intro w hw
  have hfirst : first.standalone = false := hflows first List.mem_cons_self
  rcases hp : e.prepare false st.bench.disk with ⟨result, d'⟩
  cases result with
  | error x =>
    obtain ⟨x', hx'⟩ := prepare_failed hp
    -- no flow gets further than the first, so the disk stays as that left it
    have hstays : ∀ later, later <+: rest → (e.afterAll st (first :: later)).bench.disk = d' := by
      intro later hlater
      induction later using List.reverseRecOn with
      | nil =>
        rw [← hfirst] at hp
        exact disk_after_of_error hp
      | append_singleton front f ih =>
        have hfront := ih (List.IsPrefix.trans (List.prefix_append _ _) hlater)
        have hf : f.standalone = false :=
          hflows f (List.mem_cons_of_mem _ (hlater.subset (List.mem_append_right _ List.mem_cons_self)))
        rw [← List.cons_append, afterAll_snoc]
        refine disk_after_of_error (x := x') ?_
        rw [hf, hfront]
        exact hx'
    refine ⟨⟨0, Nat.zero_le 1, fun later hlater => ?_⟩, fun later hlater d₁ hensure changed d₂ hm => ?_⟩
    · rw [hstays later hlater, (grown_of_prepare_eq_error hp).writes]
      rfl
    · rw [hstays later hlater] at hensure
      cases hx'.symm.trans (prepare_of_materialize hensure hm)
  | ok w' =>
    obtain ⟨d₁, text, l, changed, hensure, htext, hforce, hwidens, -, hwrites⟩ := inForce_of_prepare hfree hp
    cases hw.symm.trans (workspace_of_ensure hensure)
    have hgrown := Workspace.ensure_grown e.project e.config.workspaceDirectory st.bench.disk
    rw [hensure] at hgrown
    obtain ⟨bytes, hbytes⟩ := Manifest.readBytes_of_load hload
    have hsettled : ∀ later, later <+: rest →
        Settled w text l d₁ (d'.writes.count w.manifestPath) (e.afterAll st (first :: later)).bench.disk ∧
          (e.afterAll st (first :: later)).bench.disk.readBytes e.manifestPath = d₁.readBytes e.manifestPath := by
      intro later hlater
      refine ⟨?_, by rw [hsource _ (List.prefix_cons_inj first |>.2 hlater), hbytes, hgrown.readBytes hbytes]⟩
      induction later using List.reverseRecOn with
      | nil =>
        rw [← hfirst] at hp
        exact settled_after hkeeps hp ⟨hforce, hwidens, rfl⟩
      | append_singleton front f ih =>
        have hprefix : front <+: rest := List.IsPrefix.trans (List.prefix_append _ _) hlater
        have hf : f.standalone = false :=
          hflows f (List.mem_cons_of_mem _ (hlater.subset (List.mem_append_right _ List.mem_cons_self)))
        have hfront := ih hprefix
        have hsame : (e.afterAll st (first :: front)).bench.disk.readBytes e.manifestPath =
            d₁.readBytes e.manifestPath := by
          rw [hsource _ (List.prefix_cons_inj first |>.2 hprefix), hbytes, hgrown.readBytes hbytes]
        obtain ⟨hensure', hm⟩ := settled_again hensure htext hfront hsame
        rw [← List.cons_append, afterAll_snoc]
        refine settled_after hkeeps ?_ hfront
        rw [hf]
        exact prepare_of_materialize hensure' hm
    refine ⟨⟨if changed then 1 else 0, by cases changed <;> decide, fun later hlater => ?_⟩,
      fun later hlater d₂ hensure₂ changed₂ d₃ hm => ?_⟩
    · rw [(hsettled later hlater).1.count, hwrites, List.count_append, hgrown.writes]
      cases changed <;> simp
    · obtain ⟨hsettled, hsame⟩ := hsettled later hlater
      obtain ⟨hensure', hm'⟩ := settled_again hensure htext hsettled hsame
      cases hensure'.symm.trans hensure₂
      cases hm'.symm.trans hm
      rfl

/-! ## A workspace without a manifest, and one with a link -/

open Isolation

/-- The project before the manifest of its workspace was written. -/
@[irreducible] def bareDisk : Disk :=
  { sampleDisk with tree := sampleDisk.tree.erase ["project", "elm-stuff", "elm-ai", "elm.json"] }

instance isArranged_bareDisk : IsArranged bareDisk where
  project := by decide +kernel
  directories := by decide +kernel
  text := manifestText_of_readBytes (by decide +kernel) (by rw [bareDisk])

instance isUnlinked_bareDisk : IsUnlinked bareDisk where
  entries := by decide +kernel

/-- The project after the manifest of its workspace was written. -/
@[irreducible] def writtenDisk : Disk := (Disk.writeIfChanged sampleWorkspace.manifestPath sampleText bareDisk).2

theorem prepare_bareDisk (m : Mock) : (sampleEngine m).prepare false bareDisk = (.ok sampleWorkspace, writtenDisk) := by
  have hresult : (Disk.writeIfChanged sampleWorkspace.manifestPath sampleText bareDisk).1 = .ok true := by decide +kernel
  have hwrite : Disk.writeIfChanged sampleWorkspace.manifestPath sampleText bareDisk = (.ok true, writtenDisk) :=
    Prod.ext hresult (by rw [writtenDisk])
  exact isArranged_bareDisk.prepare m hwrite

theorem prefix_singleton {f : Flow} {done : List Flow} (h : done <+: [f]) : done = [] ∨ done = [f] := by
  cases done with
  | nil => exact .inl rfl
  | cons g done =>
    obtain ⟨rfl, hdone⟩ := List.cons_prefix_cons.1 h
    rw [List.prefix_nil.1 hdone]
    exact .inr rfl

/-- The manifest is written by a check, and found as it is after that. -/
theorem materialized_once_sample :
    let e := sampleEngine {}
    let st := fresh bareDisk
    (∃ m, Manifest.load bareDisk e.manifestPath = .ok m) ∧
      (∃ k ≤ 1, (e.afterAll st [sampleFlow]).bench.disk.writes.count sampleWorkspace.manifestPath =
        bareDisk.writes.count sampleWorkspace.manifestPath + k) ∧
      ∀ d₁, Workspace.ensure e.project e.config.workspaceDirectory (e.afterAll st [sampleFlow]).bench.disk =
          (.ok sampleWorkspace, d₁) →
        ∀ changed d₂, sampleWorkspace.materialize e.manifestPath d₁ = (.ok changed, d₂) → changed = false := by
  intro e st
  have hkeeps : e.oracle.KeepsDisk := Mock.keepsDisk {}
  have hfree : e.LinkFree st.bench.disk := isArranged_bareDisk.linkFree isUnlinked_bareDisk {}
  obtain ⟨m, hload⟩ : ∃ m, Manifest.load bareDisk e.manifestPath = .ok m :=
    Workspace.load_of_manifestText isArranged_bareDisk.text
  have hbytes : (e.after st sampleFlow).bench.disk.readBytes e.manifestPath = bareDisk.readBytes e.manifestPath := by
    rw [sampleFlow, after, compileCheck, bind_of_ok (provision_fresh (prepare_bareDisk {}))]
    decide +kernel
  have hsource : ∀ done, done <+: [sampleFlow] →
      (e.afterAll st done).bench.disk.readBytes e.manifestPath = st.bench.disk.readBytes e.manifestPath := by
    intro done hdone
    rcases prefix_singleton hdone with rfl | rfl
    · rfl
    · exact hbytes
  have hflows : ∀ f ∈ [sampleFlow], f.standalone = false := fun f hf => by rw [List.mem_singleton.1 hf]; rfl
  have hw : e.workspace st.bench.disk = .ok sampleWorkspace := workspace_of_ensure isArranged_bareDisk.ensure
  obtain ⟨⟨k, hk, hcount⟩, hlater⟩ := materialized_once hkeeps hload hfree hflows hsource sampleWorkspace hw
  exact ⟨⟨m, hload⟩, ⟨k, hk, hcount [] (List.prefix_refl [])⟩, hlater [] (List.prefix_refl [])⟩

/-- The project with the link, after a check wrote the file of the units. -/
@[irreducible] def checkedDisk : Disk := (Disk.writeIfChanged sampleFile "module ElmAiCandidate exposing (..)\n" linkedDisk).2

theorem disk_after_linkedDisk : ((sampleEngine {}).after (fresh linkedDisk) sampleFlow).bench.disk = checkedDisk := by
  rw [sampleFlow, after, compileCheck, bind_of_ok (provision_fresh (isPrepared_linkedDisk.prepare {}))]
  decide +kernel

instance isArranged_checkedDisk : IsArranged checkedDisk where
  project := by decide +kernel
  directories := by decide +kernel
  text := manifestText_of_readBytes (by decide +kernel) (by decide +kernel)

/-- **Behind a link the manifest may be written later**: the manifest of the project loads and stays as it is, that of the
workspace is another file, and after a check of a unit it is written. -/
theorem exists_materialized_later :
    let e := sampleEngine {}
    let st := fresh linkedDisk
    e.oracle.KeepsDisk ∧ (Manifest.load linkedDisk e.manifestPath).isOk = true ∧
      linkedDisk.locate e.manifestPath ≠ linkedDisk.locate sampleWorkspace.manifestPath ∧
      (∀ done, done <+: [sampleFlow] →
        (e.afterAll st done).bench.disk.readBytes e.manifestPath = linkedDisk.readBytes e.manifestPath) ∧
      ∃ d₁ d₂, Workspace.ensure e.project e.config.workspaceDirectory (e.afterAll st [sampleFlow]).bench.disk =
          (.ok sampleWorkspace, d₁) ∧
        sampleWorkspace.materialize e.manifestPath d₁ = (.ok true, d₂) := by
  intro e st
  obtain ⟨m, hload⟩ : ∃ m, Manifest.load linkedDisk e.manifestPath = .ok m :=
    Workspace.load_of_manifestText isPrepared_linkedDisk.text
  refine ⟨Mock.keepsDisk {}, by rw [hload]; rfl, by decide +kernel, fun done hdone => ?_, checkedDisk, ?_⟩
  · rcases prefix_singleton hdone with rfl | rfl
    · rfl
    · show (e.after st sampleFlow).bench.disk.readBytes e.manifestPath = _
      rw [disk_after_linkedDisk]
      decide +kernel
  · have hwrite : (Disk.writeIfChanged sampleWorkspace.manifestPath sampleText checkedDisk).1 = .ok true := by
      decide +kernel
    have hresult : (sampleWorkspace.materialize e.manifestPath checkedDisk).1 = .ok true := by
      have htext : sampleWorkspace.manifestText false e.manifestPath checkedDisk = .ok sampleText :=
        isArranged_checkedDisk.text
      have hrun := sampleWorkspace.materialize_run false e.manifestPath checkedDisk
      rw [if_neg Bool.false_ne_true, htext] at hrun
      rw [hrun, hwrite]
    refine ⟨(sampleWorkspace.materialize e.manifestPath checkedDisk).2, ?_, Prod.ext hresult rfl⟩
    show Workspace.ensure _ _ (e.after st sampleFlow).bench.disk = _
    rw [disk_after_linkedDisk]
    exact isArranged_checkedDisk.ensure

end ElmAssay.Engine
