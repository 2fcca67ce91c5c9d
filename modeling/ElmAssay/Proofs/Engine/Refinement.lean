import ElmAssay.Proofs.Candidate.Masked
import ElmAssay.Proofs.Disk.Exact
import ElmAssay.Proofs.Engine.Completion

/-!
# A batch, and a check of each of its candidates alone

To check a batch one candidate after the other is to check it many times in one go, each time with the other candidates
hollow (`Candidate.masked`). The unit for a candidate is that of such a check (`Isolation.buildUnit_eq_masked`), and it does
not matter that it goes to a file that has the unit of another candidate already: if that one was written and read, this
one can be written and read on the disk from before (`Isolation.checkUnit_of_validateFrom`). So the verdict on a candidate is
the outcome of that check (`outcomes_of_masked`), and for a batch of one candidate both flows do the same
(`validateBatch_singleton`).
-/

namespace ElmAssay

open Effect Text

theorem Candidate.checkUnique_singleton (c : Candidate) : checkUnique [c] = .ok () :=
  checkUnique_eq_ok_iff.2 (List.nodup_singleton c.name)

/-! ## Units -/

namespace Isolation

/-- **The unit for a candidate is the unit of the batch in which all others are hollow.** -/
theorem buildUnit_eq_masked {σ : Type} (s : Isolation σ) (source : ModuleSource) (focus : Nat) {batch : List Candidate}
    (hnames : ∀ c ∈ batch, Elm.isValueWord c.name.toList = true) (hnodup : (batch.map Candidate.name).Nodup) :
    s.buildUnit source focus batch =
      (Material.batch (Candidate.masked focus batch)).render.bind fun more =>
        CompileUnit.splice source more s.moduleName s.strict := by
  have hunique : Candidate.checkUnique (Candidate.masked focus batch) = .ok () := by
    rw [Candidate.checkUnique_eq_ok_iff, Candidate.map_name_masked]
    exact hnodup
  rw [buildUnit, Candidate.isolated_eq_renderAll hnames, Material.render, hunique]
  rfl

variable {m : Mock} {s : Isolation Mock.Log} {source : ModuleSource} {batch : List Candidate} {d d' : Disk}

/-- Every text can be written to the file of the units, and is read there then. -/
structure TakesUnits {σ : Type} (s : Isolation σ) (d : Disk) : Prop where
  below : (s.unitsFile.below? s.workspace.root).isSome = true
  write : ∀ text, ∃ changed d', Disk.writeIfChanged s.unitsFile text d = (.ok changed, d') ∧
    d'.readText s.unitsFile = .ok (asRead text)

/-- Where units can be written, each of them has an answer. -/
theorem TakesUnits.checkUnit (h : s.TakesUnits d) (hm : IsMocked m s) {u : CompileUnit} (hu : u.moduleName = s.moduleName)
    {o : Outcome} (ho : m.answer (asRead u.text) (Mock.command .compile s.unitsFile) = .ok o) (log : Mock.Log) :
    (s.checkUnit u ⟨d, log⟩).1 = .ok o := by
  obtain ⟨changed, d', hwrite, hread⟩ := h.write u.text
  rw [checkUnit_of_write (b := ⟨d, log⟩) hm hu h.below hwrite hread ho]

/-- A unit with an answer was written, and the answer is to what was read then: the unit. -/
theorem checkUnit_eq_ok (hm : IsMocked m s) {u : CompileUnit} (hu : u.moduleName = s.moduleName) {b b' : Bench Mock.Log}
    {o : Outcome} (h : s.checkUnit u b = (.ok o, b')) :
    (s.unitsFile.below? s.workspace.root).isSome = true ∧
      m.answer (asRead u.text) (Mock.command .compile s.unitsFile) = .ok o ∧
      ∃ changed, Disk.writeIfChanged s.unitsFile u.text b.disk = (.ok changed, b'.disk) ∧
        b'.disk.readText s.unitsFile = .ok (asRead u.text) := by
  rw [checkUnit, s.unitPath_of_name hu] at h
  obtain ⟨⟨⟩, b₁, hwrite, hcheck⟩ := bind_eq_ok h
  rw [hm.oracle] at hcheck
  obtain ⟨text, hread, hanswer, hdisk⟩ := m.check_eq_ok hcheck
  rw [hm.root_join] at hread hanswer
  cases hbelow : s.unitsFile.below? s.workspace.root with
  | none => rw [Engine.writeBelow_of_none u.text hbelow] at hwrite; cases hwrite
  | some q =>
    rw [Bench.onDisk, Workspace.writeBelow_eq, hbelow] at hwrite
    dsimp only at hwrite
    rcases hw : Disk.writeIfChanged s.unitsFile u.text b.disk with ⟨result, d₁⟩
    rw [hw] at hwrite
    cases result with
    | error x => cases hwrite
    | ok changed =>
      cases hwrite
      have htext : d₁.readText s.unitsFile = .ok (asRead u.text) :=
        Disk.readText_of_writeIfChanged hw (by rw [hread]; rfl)
      cases hread.symm.trans htext
      refine ⟨rfl, hanswer, changed, by rw [hdisk], by rw [hdisk]; exact htext⟩

/-- After an answer, the disk is as it was, or it was one that takes units. -/
theorem takesUnits_of_checkUnit (hm : IsMocked m s) {u : CompileUnit} (hu : u.moduleName = s.moduleName)
    {b b' : Bench Mock.Log} {o : Outcome} (h : s.checkUnit u b = (.ok o, b')) : b'.disk = b.disk ∨ s.TakesUnits b.disk := by
  obtain ⟨hbelow, -, changed, hwrite, hread⟩ := checkUnit_eq_ok hm hu h
  cases changed with
  | false =>
    obtain ⟨-, hsame, -⟩ | ⟨habsurd, -⟩ := Disk.writeIfChanged_cases hwrite
    · exact .inl hsame
    · cases habsurd
  | true => exact .inr ⟨hbelow, fun text => Disk.exists_write_of_write hwrite (by rw [hread]; rfl) text⟩

/-- **In a run that has verdicts on all candidates, each is the answer to the unit of its candidate on the disk from the
start**: as long as nothing is written, the disk is that one, and once something was, it takes units. -/
theorem checkUnit_of_validateFrom (hm : IsMocked m s) :
    ∀ (rest : List Candidate) (focus : Nat) {b b' : Bench Mock.Log} {verdicts : List Verdict},
      b.disk = d ∨ s.TakesUnits d → s.validateFrom source batch focus rest b = (.ok verdicts, b') →
        ∀ i c, rest[i]? = some c → ∃ u o, s.buildUnit source (focus + i) batch = .ok u ∧
          verdicts[i]? = some ⟨c.name, o⟩ ∧ ∀ log, (s.checkUnit u ⟨d, log⟩).1 = .ok o
  | [], _, _, _, _, _, _, _, _, hi => by cases hi
  | c :: rest, focus, b, b', verdicts, hd, h, i, c', hi => by
    rw [validateFrom] at h
    cases hbuild : s.buildUnit source focus batch with
    | error x => rw [hbuild] at h; cases h
    | ok u =>
      rw [hbuild] at h
      dsimp only at h
      obtain ⟨o, b₁, hcheck, h⟩ := bind_eq_ok h
      obtain ⟨verdicts', b₂, hrest, h⟩ := bind_eq_ok h
      cases h
      have hu : u.moduleName = s.moduleName := CompileUnit.moduleName_of_splice hbuild
      obtain ⟨hbelow, hanswer, changed, hwrite, hread⟩ := checkUnit_eq_ok hm hu hcheck
      have hagain : b₁.disk = d ∨ s.TakesUnits d := by
        rcases hd with rfl | htakes
        · exact takesUnits_of_checkUnit hm hu hcheck
        · exact .inr htakes
      cases i with
      | zero =>
        cases hi
        refine ⟨u, o, hbuild, rfl, fun log => ?_⟩
        rcases hd with rfl | htakes
        · rw [checkUnit_of_write (b := ⟨b.disk, log⟩) hm hu hbelow hwrite hread hanswer]
        · exact htakes.checkUnit hm hu hanswer log
      | succ i =>
        obtain ⟨u', o', hu', ho', hlog⟩ := checkUnit_of_validateFrom hm rest (focus + 1) hagain hrest i c' (by simpa using hi)
        have hposition : focus + (i + 1) = focus + 1 + i := by omega
        exact ⟨u', o', by rw [hposition, hu'], by simpa using ho', hlog⟩

end Isolation

namespace Isolation

variable {m : Mock} {s : Isolation Mock.Log} {source : ModuleSource} {batch : List Candidate} {b b' : Bench Mock.Log}

/-- A batch that fails although its units can be written fails for all candidates alike: no unit can be built, or none goes
below the workspace. -/
theorem checkUnit_of_validateBatch_error (hm : IsMocked m s) (hnodup : (batch.map Candidate.name).Nodup) {x : Failure}
    (hwrite : (s.unitsFile.below? s.workspace.root).isSome = true → b.disk.CanWrite s.unitsFile)
    (h : s.validateBatch source batch b = (.error x, b')) (focus : Nat) :
    s.buildUnit source focus batch = .error x ∨
      ∃ u, s.buildUnit source focus batch = .ok u ∧ (s.checkUnit u b).1 = .error x := by
  rcases CompileUnit.splice_cases source s.moduleName s.strict with hok | ⟨-, herr⟩
  · have hbuild (focus : Nat) : ∃ u, s.buildUnit source focus batch = .ok u ∧ u.moduleName = s.moduleName := hok _
    obtain ⟨u, hu, hname⟩ := hbuild focus
    refine .inr ⟨u, hu, ?_⟩
    cases hbelow : s.unitsFile.below? s.workspace.root with
    | some q =>
      have hsome : (s.unitsFile.below? s.workspace.root).isSome = true := by rw [hbelow]; rfl
      obtain ⟨verdicts, calls, d', -, hrun⟩ := validateBatch_run hm hbuild hnodup ⟨hsome, hwrite hsome⟩
      cases hrun.symm.trans h
    | none =>
      have houtside {u : CompileUnit} (hname : u.moduleName = s.moduleName) :
          s.checkUnit u b = (.error (.outside s.unitsFile s.workspace.root), b) := by
        rw [checkUnit, s.unitPath_of_name hname]
        exact bind_of_error (Engine.writeBelow_of_none u.text hbelow b)
      cases batch with
      | nil => cases h
      | cons c rest =>
        obtain ⟨u₀, hu₀, hname₀⟩ := hbuild 0
        rw [validateBatch, Candidate.checkUnique_eq_ok_iff.2 hnodup] at h
        dsimp only at h
        rw [validateFrom, hu₀] at h
        dsimp only at h
        rw [bind_of_error (bind_of_error (houtside hname₀))] at h
        cases h
        rw [houtside hname]
  · cases batch with
    | nil => cases h
    | cons c rest =>
      have hbuild (focus : Nat) : s.buildUnit source focus (c :: rest) = .error (.noHeader source.path) := herr _
      rw [validateBatch, Candidate.checkUnique_eq_ok_iff.2 hnodup] at h
      dsimp only at h
      rw [bind_of_error (validateFrom_of_error hbuild 0 c rest b)] at h
      cases h
      exact .inl (hbuild focus)

/-- A batch of one candidate is the check of the unit with it. -/
theorem validateBatch_singleton {σ : Type} (s : Isolation σ) (source : ModuleSource) (c : Candidate) :
    s.validateBatch source [c] = do
      let u ← liftM (CompileUnit.splice source (Candidate.renderAll [c]) s.moduleName s.strict)
      let o ← s.checkUnit u
      return ⟨[⟨c.name, o⟩]⟩ := by
  have hbuild : s.buildUnit source 0 [c] =
      CompileUnit.splice source (Candidate.renderAll [c]) s.moduleName s.strict := rfl
  funext b
  rw [validateBatch, Candidate.checkUnique_singleton]
  dsimp only
  rw [bind_run, bind_run, lift_run, validateFrom, hbuild]
  cases CompileUnit.splice source (Candidate.renderAll [c]) s.moduleName s.strict with
  | error x => rfl
  | ok u =>
    dsimp only
    rw [bind_run, bind_run]
    rcases s.checkUnit u b with ⟨result, b'⟩
    cases result <;> rfl

end Isolation

/-! ## Flows -/

namespace Engine

variable {σ : Type}

/-- A check of a batch in which all candidates but one are hollow is a check of the unit for that one. -/
theorem compileCheck_masked (e : Engine σ) (ref : ModuleRef) {batch : List Candidate}
    (hnames : ∀ c ∈ batch, Elm.isValueWord c.name.toList = true) (hnodup : (batch.map Candidate.name).Nodup) (focus : Nat)
    (st : EngineState σ) :
    (e.compileCheck ref (.batch (Candidate.masked focus batch)) st).1 =
      match e.provision false st with
      | (.error x, _) => .error x
      | (.ok w, st') =>
        match (e.readModule ref st'.bench.disk).1 with
        | .error x => .error x
        | .ok source =>
          match (e.isolation w).buildUnit source focus batch with
          | .error x => .error x
          | .ok u => ((e.isolation w).checkUnit u st'.bench).1 := by
  rw [compileCheck_fst]
  rcases e.provision false st with ⟨result, st'⟩
  cases result with
  | error x => rfl
  | ok w =>
    dsimp only
    cases (e.readModule ref st'.bench.disk).1 with
    | error x => rfl
    | ok source =>
      dsimp only
      rw [(e.isolation w).buildUnit_eq_masked source focus hnames hnodup]
      cases (Material.batch (Candidate.masked focus batch)).render <;> rfl

/-- The check of a module with one candidate. -/
def checkAlone (e : Engine σ) (ref : ModuleRef) (c : Candidate) : BenchM σ Outcome := do
  let w ← Bench.onDisk (e.prepare false)
  let source ← Bench.onDisk (e.readModule ref)
  let unit ← liftM (CompileUnit.splice source (Candidate.renderAll [c]) e.config.privateModule e.config.strictHeader)
  (e.isolation w).checkUnit unit

theorem run_compileCheck_singleton (e : Engine σ) (ref : ModuleRef) (c : Candidate) :
    e.run (.compileCheck ref (.batch [c])) = do return .outcome (← e.checkAlone ref c) := by
  have hrender : (Material.batch [c]).render = .ok (Candidate.renderAll [c]) := by
    rw [Material.render, Candidate.checkUnique_singleton]
    rfl
  simp only [run, work, checkAlone, Flow.standalone, hrender, bind_assoc]
  rfl

theorem run_validateBatch_singleton (e : Engine σ) (ref : ModuleRef) (c : Candidate) :
    e.run (.validateBatch ref [c]) = do return .batch ⟨[⟨c.name, ← e.checkAlone ref c⟩]⟩ := by
  simp only [run, work, checkAlone, Flow.standalone, Candidate.checkUnique_singleton,
    Isolation.validateBatch_singleton, bind_assoc, pure_bind]
  rfl

/-- The flow of a batch with one candidate goes as a check with it. -/
theorem validateBatch_eq_compileCheck (e : Engine σ) (ref : ModuleRef) (c : Candidate) (st : EngineState σ) :
    (e.validateBatch ref [c] st).1 = (e.compileCheck ref (.batch [c]) st).1.map (fun o => ⟨[⟨c.name, o⟩]⟩) ∧
      (e.validateBatch ref [c] st).2.bench = (e.compileCheck ref (.batch [c]) st).2.bench := by
  have hcheck := e.run_eq (.compileCheck ref (.batch [c])) st
  have hbatch := e.run_eq (.validateBatch ref [c]) st
  rw [run_compileCheck_singleton, map_run] at hcheck
  rw [run_validateBatch_singleton, map_run _ fun o => Answer.batch ⟨[⟨c.name, o⟩]⟩] at hbatch
  obtain ⟨hanswer, hbench⟩ := Prod.mk.inj hcheck
  obtain ⟨hanswer', hbench'⟩ := Prod.mk.inj hbatch
  refine ⟨?_, hbench'.symm.trans hbench⟩
  have hchecked : (e.checkAlone ref c st.bench).1 = (e.compileCheck ref (.batch [c]) st).1 :=
    map_injective (fun _ _ => Answer.outcome.inj) hanswer
  rw [hchecked] at hanswer'
  refine (map_injective (fun _ _ => Answer.batch.inj) (Eq.trans ?_ hanswer')).symm
  cases (e.compileCheck ref (.batch [c]) st).1 <;> rfl

/-! ## One candidate after the other -/

/-- The flow of a batch comes to what checks come to in which all candidates but one are hollow. -/
structure RefinesChecks (e : Engine σ) (ref : ModuleRef) (batch : List Candidate) (st : EngineState σ) : Prop where
  /-- The unit for a candidate is the unit of its check. -/
  units : ∀ w source focus, (e.isolation w).buildUnit source focus batch =
    (Material.batch (Candidate.masked focus batch)).render.bind fun more =>
      CompileUnit.splice source more e.config.privateModule e.config.strictHeader
  /-- The verdict on a candidate is the outcome of its check. -/
  verdicts : ∀ r, (e.validateBatch ref batch st).1 = .ok r → ∀ i c, batch[i]? = some c →
    ∃ o, r.verdicts[i]? = some ⟨c.name, o⟩ ∧ (e.compileCheck ref (.batch (Candidate.masked i batch)) st).1 = .ok o
  /-- If the units can be written, the batch fails as each of its checks does. -/
  failures : (∀ w d, e.prepare false st.bench.disk = (.ok w, d) →
      ((e.isolation w).unitsFile.below? w.root).isSome = true → d.CanWrite (e.isolation w).unitsFile) →
    ∀ x, (e.validateBatch ref batch st).1 = .error x → ∀ i,
      (e.compileCheck ref (.batch (Candidate.masked i batch)) st).1 = .error x
  /-- A batch of one candidate, whatever it is, goes as its check. -/
  alone : ∀ c, (e.validateBatch ref [c] st).1 =
      (e.compileCheck ref (.batch [c]) st).1.map (fun o => ⟨[⟨c.name, o⟩]⟩) ∧
    (e.validateBatch ref [c] st).2.bench = (e.compileCheck ref (.batch [c]) st).2.bench

/-- **To check a batch one candidate after the other is to check it once for each candidate with all others hollow.** -/
theorem refinesChecks {m : Mock} {e : Engine Mock.Log} (he : e.oracle = m.oracle) (ref : ModuleRef) {batch : List Candidate}
    (hnames : ∀ c ∈ batch, Elm.isValueWord c.name.toList = true) (hnodup : (batch.map Candidate.name).Nodup)
    (st : EngineState Mock.Log) : e.RefinesChecks ref batch st := by
  have hunique : Candidate.checkUnique batch = .ok () := Candidate.checkUnique_eq_ok_iff.2 hnodup
  refine ⟨fun w source focus => (e.isolation w).buildUnit_eq_masked source focus hnames hnodup,
    fun r h i c hi => ?_, fun hwrite x h i => ?_, fun c => validateBatch_eq_compileCheck e ref c st⟩
  · rw [validateBatch_fst, hunique] at h
    rw [compileCheck_masked e ref hnames hnodup]
    rcases hprovision : e.provision false st with ⟨result, st'⟩
    rw [hprovision] at h
    cases result with
    | error x => cases h
    | ok w =>
      dsimp only at h ⊢
      cases hread : (e.readModule ref st'.bench.disk).1 with
      | error x => rw [hread] at h; cases h
      | ok source =>
        rw [hread] at h
        dsimp only at h ⊢
        rw [Isolation.validateBatch, hunique] at h
        rcases hrun : (e.isolation w).validateFrom source batch 0 batch st'.bench with ⟨result, b'⟩
        dsimp only at h
        rw [bind_run, hrun] at h
        cases result with
        | error x => cases h
        | ok verdicts =>
          cases h
          obtain ⟨u, o, hu, ho, hcheck⟩ := Isolation.checkUnit_of_validateFrom (m := m)
            ⟨he, isAbsolute_of_provision hprovision⟩ batch 0 (.inl rfl) hrun i c hi
          rw [Nat.zero_add] at hu
          rw [hu]
          exact ⟨o, ho, hcheck st'.bench.oracle⟩
  · rw [validateBatch_fst, hunique] at h
    rw [compileCheck_masked e ref hnames hnodup]
    have hprepare := e.provision_run false st
    rcases hprovision : e.provision false st with ⟨result, st'⟩
    rw [hprovision] at h hprepare
    cases result with
    | error x' => cases h; rfl
    | ok w =>
      dsimp only at h ⊢
      cases hread : (e.readModule ref st'.bench.disk).1 with
      | error x' => rw [hread] at h; cases h; rfl
      | ok source =>
        rw [hread] at h
        dsimp only at h ⊢
        rcases hp : e.prepare false st.bench.disk with ⟨result, d⟩
        rw [hp] at hprepare
        obtain rfl : result = .ok w := by cases result <;> cases hprepare; rfl
        have hdisk : st'.bench.disk = d := by cases hprepare; rfl
        rcases hrun : (e.isolation w).validateBatch source batch st'.bench with ⟨result, b'⟩
        rw [hrun] at h
        obtain rfl : result = .error x := h
        have hfailed := Isolation.checkUnit_of_validateBatch_error (m := m) ⟨he, isAbsolute_of_provision hprovision⟩ hnodup
          (fun hbelow => by rw [hdisk]; exact hwrite w d hp hbelow) hrun i
        rcases hfailed with hu | ⟨u, hu, hcheck⟩
        · rw [hu]
        · rw [hu]
          exact hcheck

/-- In the project, the flow of a batch of two candidates returns, and so do the checks of each of them. -/
theorem refinesChecks_sample :
    let e := sampleEngine {}
    let st := fresh Isolation.sampleDisk
    (e.answer st sampleBatch).isOk = true ∧ e.RefinesChecks sampleModule sampleCandidates st := by
  refine ⟨isOk_sampleBatch, refinesChecks (m := {}) rfl sampleModule ?_ ?_ _⟩
  · decide
  · decide

end Engine
end ElmAssay
