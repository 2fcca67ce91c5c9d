import ElmAssay.Json.Reader
import ElmAssay.Json.Schema
import Mathlib.Data.List.Induction
import Mathlib.Data.List.Nodup
import Mathlib.Order.MinMax

/-!
# The parts of JSON values

What holds of every part of a value (`all`), and how many arrays and objects stand inside of each other in it (`depth`).
A text can hold a value exactly if its numbers are whole and not too long (`isShortWhole`) and no object has a key twice
(`hasDistinctKeys`): that is `IsExact`.

The table that pairs make has every key once (`Fields.nodup_keys_ofPairs`) and is the list of the pairs if they have
(`Fields.ofPairs_eq_self`). Numbers that are made finite are finite (`all_finite`); that changes nothing in a value whose
numbers are finite (`finite_eq_self`), and leaves every value as deep as it was (`levels_finite`).
-/

namespace ElmAssay

variable {key : String} {v : Json} {fs pairs : Fields}

/-! ## Tables -/

namespace Fields

/-- The keys of fields, in order. -/
def keys (fs : Fields) : List String := fs.map Prod.fst

theorem keys_put (fs : Fields) (key : String) (v : Json) :
    (fs.put key v).keys = if key ∈ fs.keys then fs.keys else fs.keys ++ [key] := by
  induction fs with
  | nil => rfl
  | cons f fs ih =>
    obtain ⟨k, w⟩ := f
    rw [put]
    by_cases hk : k = key
    · rw [if_pos hk, if_pos (by rw [hk]; exact List.mem_cons_self)]
      rfl
    · rw [if_neg hk, keys, List.map_cons, ← keys, ih]
      have hmem : key ∈ keys ((k, w) :: fs) ↔ key ∈ keys fs := by
        rw [keys, List.map_cons, List.mem_cons, ← keys, or_iff_right (Ne.symm hk)]
      by_cases hkey : key ∈ keys fs
      · rw [if_pos hkey, if_pos (hmem.2 hkey)]
        rfl
      · rw [if_neg hkey, if_neg (mt hmem.1 hkey)]
        rfl

theorem put_of_not_mem (h : key ∉ fs.keys) (v : Json) : fs.put key v = fs ++ [(key, v)] := by
  induction fs with
  | nil => rfl
  | cons f fs ih =>
    obtain ⟨k, w⟩ := f
    rw [keys, List.map_cons, List.mem_cons, not_or] at h
    rw [put, if_neg (Ne.symm h.1), ih h.2, List.cons_append]

/-- What a table holds after a value was put into it, it held before or is that value. -/
theorem mem_put {f : String × Json} (h : f ∈ fs.put key v) : f ∈ fs ∨ f = (key, v) := by
  induction fs with
  | nil => exact .inr (List.mem_singleton.1 h)
  | cons g fs ih =>
    obtain ⟨k, w⟩ := g
    rw [put] at h
    split at h
    · rename_i hk
      rcases List.mem_cons.1 h with rfl | h
      · exact .inr (by rw [hk])
      · exact .inl (List.mem_cons_of_mem _ h)
    · rcases List.mem_cons.1 h with rfl | h
      · exact .inl List.mem_cons_self
      · exact (ih h).imp_left (List.mem_cons_of_mem _)

theorem nodup_keys_put (h : fs.keys.Nodup) (key : String) (v : Json) : (fs.put key v).keys.Nodup := by
  rw [keys_put]
  split
  · exact h
  · rename_i hkey
    refine List.nodup_append.2 ⟨h, List.nodup_singleton key, fun a ha b hb => ?_⟩
    rw [List.mem_singleton.1 hb]
    rintro rfl
    exact hkey ha

theorem get?_cons_self (key : String) (v : Json) (fs : Fields) : get? ((key, v) :: fs) key = some v := by
  simp [get?]

theorem get?_cons_of_ne {other : String} (h : key ≠ other) (fs : Fields) : get? ((other, v) :: fs) key = fs.get? key := by
  have hb : (key == other) = false := by simpa using h
  simp [get?, List.lookup_cons, hb]

theorem get?_put_self (fs : Fields) (key : String) (v : Json) : (fs.put key v).get? key = some v := by
  induction fs with
  | nil => exact get?_cons_self key v []
  | cons f fs ih =>
    obtain ⟨k, w⟩ := f
    rw [put]
    split
    · rename_i hk
      rw [hk, get?_cons_self]
    · rename_i hk
      rw [get?_cons_of_ne (Ne.symm hk), ih]

theorem get?_put_of_ne {other : String} (h : key ≠ other) (fs : Fields) : (fs.put other v).get? key = fs.get? key := by
  induction fs with
  | nil => exact get?_cons_of_ne h []
  | cons f fs ih =>
    obtain ⟨k, w⟩ := f
    rw [put]
    split
    · rename_i hk
      rw [hk, get?_cons_of_ne h, get?_cons_of_ne h]
    · by_cases hkey : key = k
      · rw [hkey, get?_cons_self, get?_cons_self]
      · rw [get?_cons_of_ne hkey, get?_cons_of_ne hkey, ih]

/-- **The table that pairs make has every key once.** -/
theorem nodup_keys_ofPairs (pairs : Fields) : (ofPairs pairs).keys.Nodup := by
  suffices h : ∀ fs : Fields, fs.keys.Nodup → (pairs.foldl (fun fs p => fs.put p.1 p.2) fs).keys.Nodup from
    h [] List.nodup_nil
  induction pairs with
  | nil => exact fun fs h => h
  | cons p pairs ih => exact fun fs h => ih _ (nodup_keys_put h p.1 p.2)

/-- What a table holds is one of the pairs that made it. -/
theorem mem_of_mem_ofPairs {f : String × Json} (h : f ∈ ofPairs pairs) : f ∈ pairs := by
  suffices hfold : ∀ fs : Fields, f ∈ pairs.foldl (fun fs p => fs.put p.1 p.2) fs → f ∈ fs ∨ f ∈ pairs from
    (hfold [] h).resolve_left List.not_mem_nil
  clear h
  induction pairs with
  | nil => exact fun fs h => .inl h
  | cons p pairs ih =>
    intro fs h
    rcases ih _ h with h | h
    · rcases mem_put h with h | rfl
      · exact .inl h
      · exact .inr List.mem_cons_self
    · exact .inr (List.mem_cons_of_mem _ h)

/-- **Pairs with different keys are the table that they make.** -/
theorem ofPairs_eq_self (h : pairs.keys.Nodup) : ofPairs pairs = pairs := by
  suffices hfold : ∀ before pairs : Fields, (before ++ pairs).keys.Nodup →
      pairs.foldl (fun fs p => fs.put p.1 p.2) before = before ++ pairs from hfold [] pairs h
  intro before pairs
  induction pairs generalizing before with
  | nil => exact fun _ => (List.append_nil before).symm
  | cons p pairs ih =>
    intro h
    have hnew : p.1 ∉ before.keys := by
      rw [keys, List.map_append, List.nodup_append] at h
      exact fun hmem => h.2.2 _ hmem p.1 List.mem_cons_self rfl
    rw [List.append_cons] at h
    rw [List.foldl_cons, put_of_not_mem hnew, ih _ h, ← List.append_cons]

end Fields

namespace Json

/-! ## Records -/

section All

variable (p : Json → Bool)

mutual

/-- Whether a value has a property, and so has all that stands in it. -/
def all : Json → Bool
  | .arr items => p (.arr items) && allItems items
  | .obj fields => p (.obj fields) && allFields fields
  | v => p v

/-- Whether items have a property, and so has all that stands in them. -/
def allItems : List Json → Bool
  | [] => true
  | v :: vs => all v && allItems vs

/-- Whether the values of fields have a property, and so has all that stands in them. -/
def allFields : List (String × Json) → Bool
  | [] => true
  | (_, v) :: fs => all v && allFields fs

end

end All

variable {p : Json → Bool} {items : List Json} {fields : Fields}

theorem allItems_iff : allItems p items = true ↔ ∀ v ∈ items, v.all p = true := by
  induction items with
  | nil => exact iff_of_true rfl fun _ h => absurd h List.not_mem_nil
  | cons v vs ih => rw [allItems, Bool.and_eq_true, ih, List.forall_mem_cons]

theorem allFields_iff : allFields p fields = true ↔ ∀ f ∈ fields, f.2.all p = true := by
  induction fields with
  | nil => exact iff_of_true rfl fun _ h => absurd h List.not_mem_nil
  | cons f fs ih => rw [allFields, Bool.and_eq_true, ih, List.forall_mem_cons]

theorem all_arr_iff : (arr items).all p = true ↔ p (.arr items) = true ∧ ∀ v ∈ items, v.all p = true := by
  rw [all, Bool.and_eq_true, allItems_iff]

theorem all_obj_iff : (obj fields).all p = true ↔ p (.obj fields) = true ∧ ∀ f ∈ fields, f.2.all p = true := by
  rw [all, Bool.and_eq_true, allFields_iff]

/-- Whether a value is no number, or a whole one with at most as many digits as are read. -/
def isShortWhole : Json → Bool
  | .int n => (Number.natDigits n.natAbs).length ≤ digitLimit
  | .real _ => false
  | _ => true

/-- Whether a value is no object, or one in which every key stands once. -/
def hasDistinctKeys : Json → Bool
  | .obj fields => decide (Fields.keys fields).Nodup
  | _ => true

/-- Whether a value is no number, or one that is neither infinite nor absent. -/
def isFiniteNumber : Json → Bool
  | .real x => x.isFinite
  | _ => true

/-- A value that a text can hold exactly: all its numbers are whole and none has too many digits, and no object has a key
twice. -/
structure IsExact (v : Json) : Prop where
  numbers : v.all isShortWhole = true
  keys : v.all hasDistinctKeys = true

instance (v : Json) : Decidable v.IsExact :=
  decidable_of_iff (v.all isShortWhole = true ∧ v.all hasDistinctKeys = true) ⟨fun h => ⟨h.1, h.2⟩, fun h => ⟨h.1, h.2⟩⟩

theorem isExact_arr_iff : (arr items).IsExact ↔ ∀ v ∈ items, v.IsExact := by
  constructor
  · exact fun h v hv => ⟨(all_arr_iff.1 h.numbers).2 v hv, (all_arr_iff.1 h.keys).2 v hv⟩
  · exact fun h => ⟨all_arr_iff.2 ⟨rfl, fun v hv => (h v hv).numbers⟩, all_arr_iff.2 ⟨rfl, fun v hv => (h v hv).keys⟩⟩

theorem isExact_obj_iff : (obj fields).IsExact ↔ (Fields.keys fields).Nodup ∧ ∀ f ∈ fields, f.2.IsExact := by
  constructor
  · intro h
    have hkeys := all_obj_iff.1 h.keys
    exact ⟨of_decide_eq_true hkeys.1, fun f hf => ⟨(all_obj_iff.1 h.numbers).2 f hf, hkeys.2 f hf⟩⟩
  · rintro ⟨hkeys, hfields⟩
    exact ⟨all_obj_iff.2 ⟨rfl, fun f hf => (hfields f hf).numbers⟩,
      all_obj_iff.2 ⟨decide_eq_true hkeys, fun f hf => (hfields f hf).keys⟩⟩

/-! ## Finite numbers -/

mutual

/-- **Where the numbers are finite, making them finite changes nothing.** -/
theorem finite_eq_self : ∀ {v : Json}, v.all isFiniteNumber = true → finite v = v
  | .null, _ | .bool _, _ | .int _, _ | .str _, _ => rfl
  | .real _, h => if_pos h
  | .arr _, h => by rw [finite, finiteItems_eq_self (all_arr_iff.1 h).2]
  | .obj _, h => by rw [finite, finiteFields_eq_self (all_obj_iff.1 h).2]

theorem finiteItems_eq_self : ∀ {items : List Json}, (∀ v ∈ items, v.all isFiniteNumber = true) → finiteItems items = items
  | [], _ => rfl
  | v :: vs, h => by
    rw [List.forall_mem_cons] at h
    rw [finiteItems, finite_eq_self h.1, finiteItems_eq_self h.2]

theorem finiteFields_eq_self : ∀ {fields : List (String × Json)}, (∀ f ∈ fields, f.2.all isFiniteNumber = true) →
    finiteFields fields = fields
  | [], _ => rfl
  | (k, v) :: fs, h => by
    rw [List.forall_mem_cons] at h
    rw [finiteFields, finite_eq_self h.1, finiteFields_eq_self h.2]

end

mutual

/-- Numbers that are made finite are finite. -/
theorem all_finite : ∀ v : Json, (finite v).all isFiniteNumber = true
  | .null | .bool _ | .int _ | .str _ => rfl
  | .real _ => by
    rw [finite]
    split
    · assumption
    · rfl
  | .arr items => by rw [finite, all, allItems_finiteItems items]; rfl
  | .obj fields => by rw [finite, all, allFields_finiteFields fields]; rfl

theorem allItems_finiteItems : ∀ items : List Json, allItems isFiniteNumber (finiteItems items) = true
  | [] => rfl
  | v :: vs => by rw [finiteItems, allItems, all_finite v, allItems_finiteItems vs]; rfl

theorem allFields_finiteFields : ∀ fields : List (String × Json), allFields isFiniteNumber (finiteFields fields) = true
  | [] => rfl
  | (_, v) :: fs => by rw [finiteFields, allFields, all_finite v, allFields_finiteFields fs]; rfl

end

mutual

theorem all_mono {q : Json → Bool} (hpq : ∀ v, p v = true → q v = true) : ∀ {v : Json}, v.all p = true → v.all q = true
  | .null, h | .bool _, h | .int _, h | .real _, h | .str _, h => hpq _ h
  | .arr _, h => by
    rw [all, Bool.and_eq_true] at h ⊢
    exact ⟨hpq _ h.1, allItems_mono hpq h.2⟩
  | .obj _, h => by
    rw [all, Bool.and_eq_true] at h ⊢
    exact ⟨hpq _ h.1, allFields_mono hpq h.2⟩

theorem allItems_mono {q : Json → Bool} (hpq : ∀ v, p v = true → q v = true) :
    ∀ {items : List Json}, allItems p items = true → allItems q items = true
  | [], _ => rfl
  | _ :: _, h => by
    rw [allItems, Bool.and_eq_true] at h ⊢
    exact ⟨all_mono hpq h.1, allItems_mono hpq h.2⟩

theorem allFields_mono {q : Json → Bool} (hpq : ∀ v, p v = true → q v = true) :
    ∀ {fields : List (String × Json)}, allFields p fields = true → allFields q fields = true
  | [], _ => rfl
  | (_, _) :: _, h => by
    rw [allFields, Bool.and_eq_true] at h ⊢
    exact ⟨all_mono hpq h.1, allFields_mono hpq h.2⟩

end

/-- Whole numbers are finite. -/
theorem IsExact.isFiniteNumber (h : v.IsExact) : v.all isFiniteNumber = true := by
  refine all_mono (fun u hu => ?_) h.numbers
  cases u with
  | real x => cases hu
  | _ => rfl

/-! ## How deep a value is -/

mutual

/-- Numbers that are made finite leave a value as deep as it was. -/
theorem levels_finite : ∀ v : Json, levels (finite v) = levels v
  | .null | .bool _ | .int _ | .str _ => rfl
  | .real x => by
    rw [finite]
    split <;> rfl
  | .arr items => by rw [finite, levels, levels, levelsOfItems_finiteItems]
  | .obj fields => by rw [finite, levels, levels, levelsOfFields_finiteFields]

theorem levelsOfItems_finiteItems : ∀ items : List Json, levelsOfItems (finiteItems items) = levelsOfItems items
  | [] => rfl
  | v :: vs => by rw [finiteItems, levelsOfItems, levelsOfItems, levels_finite v, levelsOfItems_finiteItems vs]

theorem levelsOfFields_finiteFields :
    ∀ fields : List (String × Json), levelsOfFields (finiteFields fields) = levelsOfFields fields
  | [] => rfl
  | (k, v) :: fs => by rw [finiteFields, levelsOfFields, levelsOfFields, levels_finite v, levelsOfFields_finiteFields fs]

end

theorem levelsOfFields_without_le (key : String) : ∀ fields : Fields,
    levelsOfFields (fields.without key) ≤ levelsOfFields fields
  | [] => Nat.le_refl 0
  | (k, v) :: fs => by
    have hle := levelsOfFields_without_le key fs
    rw [Fields.without, List.filter_cons] at *
    split
    · rw [levelsOfFields, levelsOfFields]
      exact max_le_max_left _ hle
    · rw [levelsOfFields.eq_2]
      exact le_max_of_le_right hle

mutual

/-- How many arrays and objects stand inside of each other in a value. -/
def depth : Json → Nat
  | .arr items => depthOfItems items + 1
  | .obj fields => depthOfFields fields + 1
  | _ => 0

/-- How many arrays and objects stand inside of each other in an item. -/
def depthOfItems : List Json → Nat
  | [] => 0
  | v :: vs => max (depth v) (depthOfItems vs)

/-- How many arrays and objects stand inside of each other in a field. -/
def depthOfFields : List (String × Json) → Nat
  | [] => 0
  | (_, v) :: fs => max (depth v) (depthOfFields fs)

end

theorem depthOfItems_le_iff {n : Nat} : depthOfItems items ≤ n ↔ ∀ v ∈ items, v.depth ≤ n := by
  induction items with
  | nil => exact iff_of_true (Nat.zero_le n) fun _ h => absurd h List.not_mem_nil
  | cons v vs ih => rw [depthOfItems, Nat.max_le, ih, List.forall_mem_cons]

theorem depthOfFields_le_iff {n : Nat} : depthOfFields fields ≤ n ↔ ∀ f ∈ fields, f.2.depth ≤ n := by
  induction fields with
  | nil => exact iff_of_true (Nat.zero_le n) fun _ h => absurd h List.not_mem_nil
  | cons f fs ih => rw [depthOfFields, Nat.max_le, ih, List.forall_mem_cons]

mutual

/-- Arrays and objects are levels. -/
theorem depth_le_levels : ∀ v : Json, v.depth ≤ v.levels
  | .null | .bool _ | .int _ | .real _ | .str _ => Nat.zero_le 1
  | .arr items => by rw [depth, levels]; exact Nat.succ_le_succ (depthOfItems_le_levels items)
  | .obj fields => by rw [depth, levels]; exact Nat.succ_le_succ (depthOfFields_le_levels fields)

theorem depthOfItems_le_levels : ∀ items : List Json, depthOfItems items ≤ levelsOfItems items
  | [] => Nat.le_refl 0
  | v :: vs => by
    rw [depthOfItems, levelsOfItems]
    exact max_le_max (depth_le_levels v) (depthOfItems_le_levels vs)

theorem depthOfFields_le_levels : ∀ fields : List (String × Json), depthOfFields fields ≤ levelsOfFields fields
  | [] => Nat.le_refl 0
  | (_, v) :: fs => by
    rw [depthOfFields, levelsOfFields]
    exact max_le_max (depth_le_levels v) (depthOfFields_le_levels fs)

end

/-- As many arrays inside of each other, around null. -/
def nested : Nat → Json
  | 0 => .null
  | n + 1 => .arr [nested n]

end Json
end ElmAssay
