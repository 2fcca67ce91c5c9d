import ElmAssay.Disk
import ElmAssay.Outcome

/-!
# Oracles

The toolchain is the ground truth on whether a unit is valid. An oracle stands for it (`Oracle`): it checks a compile
unit or a test module by its path, and formats source text. An oracle may look at the disk, change it, keep a state of
its own, and fail. What uses an oracle runs on a bench, which is the disk and that state together (`Bench`).
-/

namespace ElmAssay

/-- The disk and the state of an oracle. -/
structure Bench (σ : Type) where
  disk : Disk
  oracle : σ

/-- What changes a bench and may fail. -/
abbrev BenchM (σ α : Type) := ExceptT Failure (StateM (Bench σ)) α

namespace Bench

variable {σ α : Type}

/-- What changes a disk, on a bench. -/
def onDisk (act : DiskM α) : BenchM σ α := fun b =>
  let (result, disk) := act b.disk
  (result, { b with disk := disk })

end Bench

/-- What stands for the toolchain. -/
structure Oracle (σ : Type) where
  /-- Compiles the unit at a path, in a directory. -/
  compile : Path → Path → BenchM σ Outcome
  /-- Runs the test module at a path, in a directory. -/
  test : Path → Path → BenchM σ Outcome
  /-- Formats a source text. -/
  format : String → BenchM σ FormatResult

end ElmAssay
