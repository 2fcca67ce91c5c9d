import ElmAssay.Batch
import ElmAssay.Candidate
import Mathlib.Data.List.Duplicate
import Mathlib.Data.List.Nodup

/-!
# Names in a batch

A batch is refused exactly if a name comes twice in it (`checkUnique_eq_ok_iff`), and the refusal tells such a name
(`duplicate_of_checkUnique`). Where no name comes twice, the outcomes by name are those of the verdicts, one for each
(`outcomes_eq_map`).
-/

namespace ElmAssay

namespace Candidate

/-! ## Names that come twice -/

/-- No duplicate is found exactly if the names are all different, and different from those seen before. -/
theorem firstDuplicate_eq_none_iff : ∀ (names seen : List String),
    firstDuplicate seen names = none ↔ names.Nodup ∧ ∀ name ∈ names, name ∉ seen
  | [], seen => by simp [firstDuplicate]
  | name :: names, seen => by
    rw [firstDuplicate, List.nodup_cons]
    by_cases h : name ∈ seen
    · simp [h]
    · rw [if_neg h, firstDuplicate_eq_none_iff names (name :: seen)]
      constructor
      · rintro ⟨hnodup, hseen⟩
        refine ⟨⟨fun hmem => hseen name hmem List.mem_cons_self, hnodup⟩, fun other hother => ?_⟩
        rcases List.mem_cons.1 hother with rfl | hother
        · exact h
        · exact fun hmem => hseen other hother (List.mem_cons_of_mem _ hmem)
      · rintro ⟨⟨hname, hnodup⟩, hseen⟩
        refine ⟨hnodup, fun other hother hmem => ?_⟩
        rcases List.mem_cons.1 hmem with rfl | hmem
        · exact hname hother
        · exact hseen other (List.mem_cons_of_mem _ hother) hmem

theorem duplicate_of_firstDuplicate {found : String} : ∀ (names seen : List String),
    firstDuplicate seen names = some found → found ∈ seen ∧ found ∈ names ∨ List.Duplicate found names
  | [], seen, h => by cases h
  | name :: names, seen, h => by
    rw [firstDuplicate] at h
    split at h
    · rename_i hseen
      cases h
      exact .inl ⟨hseen, List.mem_cons_self⟩
    · rcases duplicate_of_firstDuplicate names (name :: seen) h with ⟨hseen, hmem⟩ | hdup
      · rcases List.mem_cons.1 hseen with rfl | hseen
        · exact .inr (List.Duplicate.cons_mem hmem)
        · exact .inl ⟨hseen, List.mem_cons_of_mem _ hmem⟩
      · exact .inr (hdup.cons_duplicate)

/-- A batch is accepted exactly if no name comes twice. -/
theorem checkUnique_eq_ok_iff {batch : List Candidate} :
    checkUnique batch = .ok () ↔ (batch.map Candidate.name).Nodup := by
  have h := firstDuplicate_eq_none_iff (batch.map Candidate.name) []
  rw [checkUnique]
  cases hf : firstDuplicate [] (batch.map Candidate.name) with
  | none => simpa using (h.1 hf).1
  | some name =>
    constructor
    · intro hok
      cases hok
    · intro hnodup
      rw [h.2 ⟨hnodup, fun _ _ => List.not_mem_nil⟩] at hf
      cases hf

/-- A batch in which a name comes twice is refused with such a name. -/
theorem duplicate_of_checkUnique {batch : List Candidate} (h : ¬(batch.map Candidate.name).Nodup) :
    ∃ name, List.Duplicate name (batch.map Candidate.name) ∧ checkUnique batch = .error (.duplicateName name) := by
  rw [checkUnique]
  cases hf : firstDuplicate [] (batch.map Candidate.name) with
  | none => exact absurd ((firstDuplicate_eq_none_iff _ _).1 hf).1 h
  | some name =>
    rcases duplicate_of_firstDuplicate _ _ hf with ⟨hseen, -⟩ | hdup
    · cases hseen
    · exact ⟨name, hdup, rfl⟩

end Candidate

namespace BatchResult

/-! ## Outcomes by name -/

theorem putOutcome_of_not_mem : ∀ (entries : List (String × Outcome)) {v : Verdict},
    v.name ∉ entries.map Prod.fst → putOutcome entries v = entries ++ [(v.name, v.outcome)]
  | [], _, _ => rfl
  | (name, o) :: entries, v, h => by
    obtain ⟨hname, hrest⟩ := not_or.1 fun hm => h (List.mem_cons.2 hm)
    rw [putOutcome, if_neg (Ne.symm hname), putOutcome_of_not_mem entries hrest]
    rfl

/-- The outcomes of new names that are all different go to the end, in order. -/
theorem foldl_putOutcome : ∀ (verdicts : List Verdict) (entries : List (String × Outcome)),
    (entries.map Prod.fst ++ verdicts.map Verdict.name).Nodup →
      verdicts.foldl putOutcome entries = entries ++ verdicts.map fun v => (v.name, v.outcome)
  | [], entries, _ => by simp
  | v :: verdicts, entries, h => by
    have hv : v.name ∉ entries.map Prod.fst := by
      intro hm
      exact (List.disjoint_of_nodup_append h) hm List.mem_cons_self
    rw [List.foldl_cons, putOutcome_of_not_mem entries hv, foldl_putOutcome verdicts _ (by simpa using h)]
    simp

/-- Where no name comes twice, the outcomes by name are those of the verdicts. -/
theorem outcomes_eq_map {r : BatchResult} (h : (r.verdicts.map Verdict.name).Nodup) :
    r.outcomes = r.verdicts.map fun v => (v.name, v.outcome) := by
  rw [outcomes, foldl_putOutcome r.verdicts [] (by simpa using h), List.nil_append]

end BatchResult
end ElmAssay
