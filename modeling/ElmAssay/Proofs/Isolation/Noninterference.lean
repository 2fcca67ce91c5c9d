import ElmAssay.Proofs.Engine.Flows

/-!
# No candidate has a say in the verdict on another

Two batches have the same interface around a position if they agree in all names and signatures, and in the body there
(`SameInterface`). Then the unit for that position is the same in both (`Candidate.isolated_congr`), and so is the
verdict, or else both runs fail in the same way (`AgreeAt`, `validateBatch_noninterference`): it does not matter what
the other bodies are, although all units go to the same file. This holds for a batch that is checked in a workspace,
and for the whole flow of the engine.
-/

namespace ElmAssay

open Effect

/-- Two batches that agree in all names and signatures, and in the body at one position. -/
structure Candidate.SameInterface (i : Nat) (batch₁ batch₂ : List Candidate) : Prop where
  names : batch₁.map Candidate.name = batch₂.map Candidate.name
  signatures : batch₁.map Candidate.signature = batch₂.map Candidate.signature
  body : batch₁[i]?.map Candidate.body = batch₂[i]?.map Candidate.body

/-- Two results that have the same verdict at a position, or are the same failure. -/
def BatchResult.AgreeAt (i : Nat) : Except Failure BatchResult → Except Failure BatchResult → Prop
  | .ok r₁, .ok r₂ => ∃ v, r₁.verdicts[i]? = some v ∧ r₂.verdicts[i]? = some v
  | .error e₁, .error e₂ => e₁ = e₂
  | _, _ => False

namespace Candidate

/-- A stub is known by the name and the signature. -/
theorem stub_congr {c₁ c₂ : Candidate} (hname : c₁.name = c₂.name) (hsignature : c₁.signature = c₂.signature) :
    c₁.stub = c₂.stub := by
  simp only [stub, annotation, equation, todo, hname, hsignature]

theorem eq_of_fields {c₁ c₂ : Candidate} (hname : c₁.name = c₂.name) (hsignature : c₁.signature = c₂.signature)
    (hbody : c₁.body = c₂.body) : c₁ = c₂ := by
  cases c₁
  cases c₂
  cases hname
  cases hsignature
  cases hbody
  rfl

variable {i : Nat} {batch₁ batch₂ : List Candidate}

theorem SameInterface.length_eq (h : SameInterface i batch₁ batch₂) : batch₁.length = batch₂.length := by
  simpa using congrArg List.length h.names

/-- **What is written out for one position is known by the names, the signatures and the body there.** -/
theorem isolated_congr (h : SameInterface i batch₁ batch₂) : isolated i batch₁ = isolated i batch₂ := by
  rw [isolated, isolated]
  congr 1
  refine List.ext_getElem? fun k => ?_
  have hname := congrArg (·[k]?) h.names
  have hsignature := congrArg (·[k]?) h.signatures
  simp only [List.getElem?_map] at hname hsignature
  rw [List.getElem?_mapIdx, List.getElem?_mapIdx]
  cases h₁ : batch₁[k]? with
  | none => cases h₂ : batch₂[k]? with
    | none => rfl
    | some c₂ => simp [h₁, h₂] at hname
  | some c₁ => cases h₂ : batch₂[k]? with
    | none => simp [h₁, h₂] at hname
    | some c₂ =>
      rw [h₁, h₂] at hname hsignature
      simp only [Option.map_some, Option.some.injEq] at hname hsignature ⊢
      split
      · rename_i hk
        have hbody := h.body
        rw [← hk, h₁, h₂] at hbody
        rw [eq_of_fields hname hsignature (by simpa using hbody)]
      · exact stub_congr hname hsignature

theorem checkUnique_congr (h : SameInterface i batch₁ batch₂) : checkUnique batch₁ = checkUnique batch₂ := by
  rw [checkUnique, checkUnique, h.names]

end Candidate

open Candidate BatchResult

namespace Isolation

variable {m : Mock} {s : Isolation Mock.Log} {source : ModuleSource} {batch₁ batch₂ : List Candidate} {i : Nat}

theorem buildUnit_congr {σ : Type} (s : Isolation σ) (source : ModuleSource) (h : SameInterface i batch₁ batch₂) :
    s.buildUnit source i batch₁ = s.buildUnit source i batch₂ := by
  rw [buildUnit, buildUnit, isolated_congr h]

/-- Two runs over batches with the same interface give the same verdict at the position. -/
theorem Attributed.verdict_congr {verdicts₁ verdicts₂ : List Verdict} {calls₁ calls₂ : List Mock.Call}
    (h₁ : Attributed m s source batch₁ 0 batch₁ verdicts₁ calls₁)
    (h₂ : Attributed m s source batch₂ 0 batch₂ verdicts₂ calls₂) (h : SameInterface i batch₁ batch₂)
    (hi : i < batch₁.length) : ∃ v, verdicts₁[i]? = some v ∧ verdicts₂[i]? = some v := by
  have hi₂ : i < batch₂.length := h.length_eq ▸ hi
  obtain ⟨u₁, o₁, hu₁, ho₁, hv₁, -⟩ := h₁.get (List.getElem?_eq_getElem hi)
  obtain ⟨u₂, o₂, hu₂, ho₂, hv₂, -⟩ := h₂.get (List.getElem?_eq_getElem hi₂)
  rw [Nat.zero_add] at hu₁ hu₂
  rw [buildUnit_congr s source h, hu₂] at hu₁
  cases hu₁
  rw [ho₂] at ho₁
  cases ho₁
  have hname : batch₁[i].name = batch₂[i].name := by
    have hn := congrArg (·[i]?) h.names
    simpa [List.getElem?_eq_getElem hi, List.getElem?_eq_getElem hi₂] using hn
  exact ⟨_, hv₁, by rw [hv₂, hname]⟩

/-- The verdict on a candidate in a workspace is not changed by other bodies. -/
theorem agreeAt_validateBatch (hm : IsMocked m s) (source : ModuleSource) (h : SameInterface i batch₁ batch₂)
    (hi : i < batch₁.length) {b : Bench Mock.Log} (hb : s.CanWriteUnits b.disk) :
    AgreeAt i (s.validateBatch source batch₁ b).1 (s.validateBatch source batch₂ b).1 := by
  rw [validateBatch, validateBatch, checkUnique_congr h]
  cases checkUnique batch₂ with
  | error e => rfl
  | ok _ =>
    dsimp only
    rcases CompileUnit.splice_cases source s.moduleName s.strict with hbuild | ⟨-, herror⟩
    · obtain ⟨verdicts₁, calls₁, d₁, h₁, hrun₁⟩ :=
        validateFrom_run hm (fun focus => hbuild (isolated focus batch₁)) batch₁ 0 b hb
      obtain ⟨verdicts₂, calls₂, d₂, h₂, hrun₂⟩ :=
        validateFrom_run hm (fun focus => hbuild (isolated focus batch₂)) batch₂ 0 b hb
      rw [bind_of_ok hrun₁, bind_of_ok hrun₂]
      exact h₁.verdict_congr h₂ h hi
    · obtain ⟨c₁, rest₁, rfl⟩ := List.exists_cons_of_length_pos (Nat.zero_lt_of_lt hi)
      obtain ⟨c₂, rest₂, rfl⟩ := List.exists_cons_of_length_pos (Nat.zero_lt_of_lt (h.length_eq ▸ hi))
      rw [bind_of_error (validateFrom_of_error (fun focus => herror (isolated focus _)) 0 c₁ rest₁ b),
        bind_of_error (validateFrom_of_error (fun focus => herror (isolated focus _)) 0 c₂ rest₂ b)]
      rfl

end Isolation

/-- The verdict on a candidate in an engine is not changed by other bodies. -/
theorem Engine.agreeAt_validateBatch {m : Mock} {e : Engine Mock.Log} {i : Nat} {batch₁ batch₂ : List Candidate}
    (he : e.oracle = m.oracle) (ref : ModuleRef) (h : SameInterface i batch₁ batch₂) (hi : i < batch₁.length)
    {st : EngineState Mock.Log}
    (hwrite : ∀ w st', e.provision false st = (.ok w, st') → (e.isolation w).CanWriteUnits st'.bench.disk) :
    AgreeAt i (e.validateBatch ref batch₁ st).1 (e.validateBatch ref batch₂ st).1 := by
  rw [validateBatch_fst, validateBatch_fst, checkUnique_congr h]
  rcases hp : e.provision false st with ⟨result, st'⟩
  cases result with
  | error x => rfl
  | ok w =>
    dsimp only
    cases (e.readModule ref st'.bench.disk).1 with
    | error x => rfl
    | ok source =>
      cases checkUnique batch₂ with
      | error x => rfl
      | ok _ => exact Isolation.agreeAt_validateBatch ⟨he, isAbsolute_of_provision hp⟩ source h hi (hwrite w st' hp)

namespace Isolation

/-- **Other bodies have no say in a verdict.** In two batches that agree in all names and signatures and in the body
at one position, the unit for that position is the same, and so is the verdict there, or both runs are the same
failure: in every workspace in which units can be written, and in every engine that prepares one. -/
theorem validateBatch_noninterference (m : Mock) {i : Nat} {batch₁ batch₂ : List Candidate}
    (h : SameInterface i batch₁ batch₂) (hi : i < batch₁.length) :
    (∀ (s : Isolation Mock.Log) source, s.buildUnit source i batch₁ = s.buildUnit source i batch₂) ∧
    (∀ (s : Isolation Mock.Log) source b, IsMocked m s → s.CanWriteUnits b.disk →
      AgreeAt i (s.validateBatch source batch₁ b).1 (s.validateBatch source batch₂ b).1) ∧
    (∀ (e : Engine Mock.Log) ref st, e.oracle = m.oracle →
      (∀ w st', e.provision false st = (.ok w, st') → (e.isolation w).CanWriteUnits st'.bench.disk) →
        AgreeAt i (e.validateBatch ref batch₁ st).1 (e.validateBatch ref batch₂ st).1) :=
  ⟨fun s source => s.buildUnit_congr source h, fun _ source _ hm hb => agreeAt_validateBatch hm source h hi hb,
    fun _ ref _ he hwrite => Engine.agreeAt_validateBatch he ref h hi hwrite⟩

/-! ## Two batches for a project -/

/-- The other body may be broken or not. -/
theorem validateBatch_noninterference_sample :
    let m : Mock := ⟨.pass, some (Mock.judgeBy [⟨"broken", "no"⟩]), none⟩
    let e : Engine Mock.Log := ⟨{}, sampleWorkspace.projectRoot, sampleManifest, m.oracle⟩
    let source : ModuleSource := ⟨"module Main exposing (main)\n", none⟩
    let batch₁ : List Candidate := [⟨"one", "Int", "1", rfl⟩, ⟨"two", "Int", "broken", rfl⟩]
    let batch₂ : List Candidate := [⟨"one", "Int", "1", rfl⟩, ⟨"two", "Int", "2", rfl⟩]
    AgreeAt 0 ((e.isolation sampleWorkspace).validateBatch source batch₁ ⟨sampleDisk, []⟩).1
      ((e.isolation sampleWorkspace).validateBatch source batch₂ ⟨sampleDisk, []⟩).1 ∧
    AgreeAt 0 (e.validateBatch (.source source) batch₁ ⟨⟨sampleDisk, []⟩, .idle, [], []⟩).1
      (e.validateBatch (.source source) batch₂ ⟨⟨sampleDisk, []⟩, .idle, [], []⟩).1 := by
  intro m e source batch₁ batch₂
  have hprovision : e.provision false (Engine.fresh sampleDisk) = _ :=
    Engine.provision_fresh (Engine.isPrepared_sampleDisk.prepare m)
  have h : SameInterface 0 batch₁ batch₂ := ⟨by decide, by decide, by decide⟩
  have hwrite := canWriteUnits_sampleDisk m true
  obtain ⟨-, hworkspace, hengine⟩ := validateBatch_noninterference m h (by decide)
  refine ⟨hworkspace _ source ⟨sampleDisk, []⟩ ⟨rfl, rfl⟩ hwrite, hengine e _ _ rfl fun w st' hp => ?_⟩
  cases hprovision.symm.trans hp
  exact hwrite

end Isolation
end ElmAssay
