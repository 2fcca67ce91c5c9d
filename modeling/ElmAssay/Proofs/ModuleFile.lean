import ElmAssay.DecoderTest
import ElmAssay.Isolation
import ElmAssay.Proofs.Disk.Write
import ElmAssay.Proofs.Path

/-!
# The files of modules

A name of a module is cut at its dots, so no part of the path of its file goes up, and the file has the ending of
modules (`Path.IsModuleFile`): whatever the name is, the file of a unit (`isModuleFile_path`) and the file of a decoder
test are such files. In a workspace their paths lead down from a directory of the workspace, and none of them is the
manifest (`Workspace.proper_of_below?`).
-/

namespace ElmAssay

open Text

/-! ## Parts of texts without many dots -/

namespace Path

variable {p q : Path} {part : String}

theorem count_of_mem_cut (c : Char) : ∀ {s piece : List Char}, piece ∈ cut '/' s → piece.count c ≤ s.count c
  | [], piece, h => by rw [List.mem_singleton.1 h]
  | a :: s, piece, h => by
    obtain ⟨first, rest, hcut⟩ := List.exists_cons_of_ne_nil (cut_ne_nil '/' s)
    have hs := @count_of_mem_cut c s
    rw [cut, hcut] at h
    rw [hcut] at hs
    rw [List.count_cons]
    split at h
    · rcases List.mem_cons.1 h with rfl | h
      · exact Nat.zero_le _
      · exact Nat.le_trans (hs h) (Nat.le_add_right _ _)
    · rcases List.mem_cons.1 h with rfl | h
      · rw [List.count_cons]
        exact Nat.add_le_add_right (hs List.mem_cons_self) _
      · exact Nat.le_trans (hs (List.mem_cons_of_mem _ h)) (Nat.le_add_right _ _)

theorem count_of_mem_parse (c : Char) {s : String} (h : part ∈ (parse s).parts) :
    part.toList.count c ≤ s.toList.count c := by
  obtain ⟨hmem, -⟩ := List.mem_filter.1 h
  obtain ⟨piece, hpiece, rfl⟩ := List.mem_map.1 hmem
  rw [String.toList_ofList]
  exact count_of_mem_cut c hpiece

/-- A text with at most one dot is read as parts that give names. -/
theorem isProper_of_mem_parse {s : String} (hs : s.toList.count '.' ≤ 1) (h : part ∈ (parse s).parts) :
    IsProper part := by
  obtain ⟨hempty, hhere, -⟩ := isTextual_parse s part h
  refine ⟨hempty, hhere, ?_⟩
  rintro rfl
  have hcount := count_of_mem_parse '.' h
  have htwo : up.toList.count '.' = 2 := by decide
  omega

/-! ## The last part -/

/-- The last piece of a text with more at its end goes on with that, if there is no separator in it. -/
theorem cut_append_last {more : List Char} (hmore : '/' ∉ more) : ∀ s : List Char,
    ∃ front last, cut '/' s = front ++ [last] ∧ cut '/' (s ++ more) = front ++ [last ++ more]
  | [] => ⟨[], [], rfl, cut_of_not_mem hmore⟩
  | c :: s => by
    obtain ⟨front, last, hs, hmore⟩ := cut_append_last hmore s
    rw [List.cons_append, cut, cut, hs, hmore]
    split
    · exact ⟨[] :: front, last, rfl, rfl⟩
    · cases front with
      | nil => exact ⟨[], c :: last, rfl, rfl⟩
      | cons first front => exact ⟨(c :: first) :: front, last, rfl, rfl⟩

/-- The ending of the files of modules. -/
def moduleEnding : String := ".elm"

theorem moduleEnding_toList : moduleEnding.toList = ['.', 'e', 'l', 'm'] := by decide

/-- A text with the ending of modules is read as a path whose last part has it, and the parts before it are those of the
text. -/
theorem parse_append_moduleEnding (s : String) :
    ∃ anchor front name, parse (s ++ moduleEnding) = ⟨anchor, front ++ [name ++ moduleEnding]⟩ ∧
      ∀ part ∈ front, part.toList ∈ cut '/' s.toList := by
  have hslash : '/' ∉ moduleEnding.toList := by decide
  obtain ⟨front, last, hs, hcut⟩ := cut_append_last hslash s.toList
  have hkept : (String.ofList (last ++ moduleEnding.toList) != "" && String.ofList (last ++ moduleEnding.toList) != here) =
      true := by
    rw [Bool.and_eq_true, bne_iff_ne, bne_iff_ne]
    constructor <;> intro he <;>
    · have hl := congrArg (fun t : String => t.toList.length) he
      simp [moduleEnding_toList, here] at hl
  refine ⟨anchorOf (s ++ moduleEnding).toList, (front.map String.ofList).filter fun p => p != "" && p != here,
    String.ofList last, ?_, fun part hpart => ?_⟩
  · rw [parse, String.toList_append, hcut, List.map_append, List.filter_append, List.map_singleton, List.filter_singleton,
      hkept]
    simp only [cond_true, String.ofList_append, String.ofList_toList]
  · obtain ⟨piece, hpiece, rfl⟩ := List.mem_map.1 (List.mem_filter.1 hpart).1
    rw [String.toList_ofList, hs]
    exact List.mem_append_left _ hpiece

/-! ## Paths of several texts -/

theorem ofTexts_snoc (texts : List String) (s : String) : ofTexts (texts ++ [s]) = ofTexts texts / parse s := by
  rw [ofTexts, List.foldl_append]
  rfl

theorem mem_join (h : part ∈ (p / q).parts) : part ∈ p.parts ∨ part ∈ q.parts := by
  cases hq : q.isAbsolute with
  | true =>
    rw [join_of_isAbsolute p hq] at h
    exact .inr h
  | false =>
    rw [join_of_not_isAbsolute p hq] at h
    exact List.mem_append.1 h

/-- A part of a path of several texts is one of one of them. -/
theorem mem_ofTexts (texts : List String) (h : part ∈ (ofTexts texts).parts) :
    ∃ s ∈ texts, part ∈ (parse s).parts := by
  induction texts using List.reverseRecOn with
  | nil => cases h
  | append_singleton texts s ih =>
    rw [ofTexts_snoc] at h
    rcases mem_join h with h | h
    · obtain ⟨s', hs', hpart⟩ := ih h
      exact ⟨s', List.mem_append_left _ hs', hpart⟩
    · exact ⟨s, List.mem_append_right _ List.mem_cons_self, h⟩

/-! ## Files of modules -/

/-- A path whose parts all give names, the last one with the ending of modules, and the others without dots. -/
structure IsModuleFile (p : Path) : Prop where
  proper : ∀ part ∈ p.parts, IsProper part
  ends : ∃ front name, p.parts = front ++ [name ++ moduleEnding] ∧ ∀ part ∈ front, '.' ∉ part.toList

theorem append_moduleEnding_ne (name : String) : name ++ moduleEnding ≠ Workspace.manifestName := by
  intro he
  have hlast := congrArg (fun t : String => t.toList.getLast?) he
  simp [moduleEnding_toList, Workspace.manifestName] at hlast

theorem isProper_append_moduleEnding (name : String) : IsProper (name ++ moduleEnding) := by
  refine ⟨?_, ?_, ?_⟩ <;> intro he <;>
  · have hl := congrArg (fun t : String => t.toList.getLast?) he
    simp [moduleEnding_toList, here, up] at hl

theorem IsModuleFile.join (hp : p.IsModuleFile) (root : Path) :
    ∃ front name, (root / p).parts = front ++ [name ++ moduleEnding] := by
  obtain ⟨front, name, hparts, -⟩ := hp.ends
  cases h : p.isAbsolute with
  | true => exact ⟨front, name, by rw [join_of_isAbsolute root h, hparts]⟩
  | false => exact ⟨root.parts ++ front, name, by rw [join_of_not_isAbsolute root h, hparts, List.append_assoc]⟩

end Path

open Path

theorem CompileUnit.count_of_mem_nameParts {name part : String} (h : part ∈ nameParts name) :
    part.toList.count '.' = 0 := by
  obtain ⟨piece, hpiece, rfl⟩ := List.mem_map.1 h
  rw [String.toList_ofList, List.count_eq_zero]
  exact not_mem_of_mem_cut hpiece

/-- Parts of paths of parts of a dotted name have no dots. -/
theorem CompileUnit.undotted_of_mem_ofTexts {name part : String} {texts : List String} (htexts : texts ⊆ nameParts name)
    (h : part ∈ (ofTexts texts).parts) : '.' ∉ part.toList := by
  obtain ⟨s, hs, hpart⟩ := mem_ofTexts _ h
  have hcount := count_of_mem_parse '.' hpart
  rw [count_of_mem_nameParts (htexts hs)] at hcount
  exact List.count_eq_zero.1 (Nat.le_zero.1 hcount)

/-- The file of a unit is the file of a module, whatever its name. -/
theorem CompileUnit.isModuleFile_path (u : CompileUnit) : u.path.IsModuleFile := by
  have hlast : ((nameParts u.moduleName).getLastD "").toList.count '.' = 0 := by
    rw [List.getLastD_eq_getLast?]
    cases h : (nameParts u.moduleName).getLast? with
    | none => rfl
    | some last => exact count_of_mem_nameParts (List.mem_of_getLast? h)
  refine ⟨fun part hpart => ?_, ?_⟩
  · obtain ⟨s, hs, hpart⟩ := mem_ofTexts _ hpart
    refine isProper_of_mem_parse ?_ hpart
    rcases List.mem_append.1 hs with hs | hs
    · rw [count_of_mem_nameParts (List.dropLast_subset _ hs)]
      exact Nat.zero_le 1
    · rw [List.mem_singleton.1 hs, String.toList_append, List.count_append, hlast]
      decide
  · obtain ⟨anchor, front, name, hparse, hfront⟩ := parse_append_moduleEnding ((nameParts u.moduleName).getLastD "")
    have hundotted : ∀ part ∈ front, '.' ∉ part.toList := by
      intro part hpart
      have hcount := count_of_mem_cut '.' (hfront part hpart)
      rw [hlast] at hcount
      exact List.count_eq_zero.1 (Nat.le_zero.1 hcount)
    rw [path, ofTexts_snoc, show (".elm" : String) = moduleEnding from rfl, hparse]
    cases h : (Path.mk anchor (front ++ [name ++ moduleEnding])).isAbsolute with
    | true => exact ⟨front, name, by rw [join_of_isAbsolute _ h], hundotted⟩
    | false =>
      refine ⟨_, name, by rw [join_of_not_isAbsolute _ h, ← List.append_assoc], fun part hpart => ?_⟩
      rcases List.mem_append.1 hpart with hpart | hpart
      · exact undotted_of_mem_ofTexts (List.dropLast_subset _) hpart
      · exact hundotted part hpart

theorem DecoderTest.isModuleFile_withEnding {name : String} {q : Path}
    (h : (ofTexts (CompileUnit.nameParts name)).withEnding? ".elm" = some q) : q.IsModuleFile := by
  rw [withEnding?] at h
  split at h
  · cases h
  · cases h
    refine ⟨fun part hpart => ?_, (ofTexts (CompileUnit.nameParts name)).parts.dropLast,
      String.ofList (stem (ofTexts (CompileUnit.nameParts name)).name.toList), ?_, fun part hpart =>
        CompileUnit.undotted_of_mem_ofTexts (List.Subset.refl _) (List.dropLast_subset _ hpart)⟩
    · rcases List.mem_append.1 hpart with hpart | hpart
      · obtain ⟨s, hs, hpart⟩ := mem_ofTexts _ (List.dropLast_subset _ hpart)
        exact isProper_of_mem_parse (by rw [CompileUnit.count_of_mem_nameParts hs]; exact Nat.zero_le 1) hpart
      · rw [List.mem_singleton.1 hpart]
        refine ⟨?_, ?_, ?_⟩ <;> intro he <;>
        · have hl := congrArg (fun t : String => t.toList.length) he
          simp [here, up] at hl
    · rw [String.ofList_append, String.ofList_toList]
      rfl

namespace DecoderTest

/-- The file of a decoder test is the file of a module among the tests of a workspace. -/
theorem path_eq_ok {t : DecoderTest} {w : Workspace} {p : Path} (h : t.path w = .ok p) :
    ∃ q, p = w.tests / q ∧ q.IsModuleFile := by
  rw [path] at h
  split at h
  · rename_i q hq
    cases h
    exact ⟨q, rfl, isModuleFile_withEnding hq⟩
  · cases h

/-- Building a decoder test is writing its file. -/
theorem build_run (t : DecoderTest) (w : Workspace) (d : Disk) :
    t.build w d =
      match t.path w with
      | .error x => (.error x, d)
      | .ok p =>
        match w.writeBelow p t.source d with
        | (.ok _, d') => (.ok p, d')
        | (.error x, d') => (.error x, d') := by
  have hask : (Disk.ask fun _ => t.path w : DiskM Path) d = (t.path w, d) := Disk.given_run _ d
  rw [build, Effect.bind_run, hask]
  cases t.path w with
  | error x => rfl
  | ok p =>
    dsimp only
    rw [Effect.bind_run]
    rcases w.writeBelow p t.source d with ⟨result, d'⟩
    cases result <;> rfl

end DecoderTest

/-! ## In a workspace -/

namespace Workspace

variable {w : Workspace} {p q : Path}

/-- What follows the root in the file of a module are a directory of the workspace and parts of the file. -/
theorem mem_of_below? {directory part : String} (h : (w.root.child directory / p).below? w.root = some q)
    (hpart : part ∈ q.parts) : part = directory ∨ part ∈ p.parts := by
  rw [below?] at h
  split at h
  · cases h
    cases habsolute : p.isAbsolute with
    | true =>
      rw [join_of_isAbsolute _ habsolute] at hpart
      exact .inr (List.drop_subset _ _ hpart)
    | false =>
      rw [join_of_not_isAbsolute _ habsolute, child, List.append_assoc, List.drop_left] at hpart
      exact List.mem_cons.1 hpart
  · cases h

theorem eq_of_below? (h : p.below? w.root = some q) : p = ⟨w.root.anchor, w.root.parts ++ q.parts⟩ := by
  rw [below?] at h
  split at h
  · rename_i hbelow
    cases h
    obtain ⟨rest, hrest⟩ := List.isPrefixOf_iff_prefix.1 hbelow.2
    rw [← hrest, List.drop_left, hrest, ← hbelow.1]
  · cases h

/-- The file of a module in a directory of a workspace has no name that the manifest has, and if it is below the root its
parts from there on give names. -/
theorem proper_of_below? {directory : String} (hdirectory : IsProper directory) (hp : p.IsModuleFile)
    (h : (w.root.child directory / p).below? w.root = some q) :
    (w.root.child directory / p) = ⟨w.root.anchor, w.root.parts ++ q.parts⟩ ∧ (∀ part ∈ q.parts, IsProper part) ∧
      (w.root.child directory / p).name ≠ manifestName := by
  obtain ⟨front, name, hends⟩ := hp.join (w.root.child directory)
  refine ⟨eq_of_below? h, fun part hpart => ?_, ?_⟩
  · rcases mem_of_below? h hpart with rfl | hmem
    · exact hdirectory
    · exact hp.proper part hmem
  · rw [Path.name, hends, List.getLastD_concat]
    exact append_moduleEnding_ne name

/-- A file of a module below the root of a workspace: what follows the root are names, none of them that of the manifest. -/
structure HasModule (w : Workspace) (p : Path) : Prop where
  proper : IsProper p.name
  below : ∃ names, p = ⟨w.root.anchor, w.root.parts ++ names⟩ ∧
    ∀ name ∈ names, IsProper name ∧ name ≠ manifestName

end Workspace
end ElmAssay
