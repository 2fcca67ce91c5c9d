import ElmAssay.Manifest

/-!
# Workspaces

A workspace is the hidden directory of a project in which the toolchain runs (`Workspace`): a manifest, a directory of
sources, one of tests, and the private root of compile units. Preparing it makes the directories that are missing
(`Workspace.ensure`); its files are written only where they change.
-/

namespace ElmAssay

/-- A workspace: the root of its project and its own root. -/
structure Workspace where
  projectRoot : Path
  root : Path
  deriving DecidableEq

namespace Workspace

/-- The name of the manifest file. -/
def manifestName : String := "elm.json"

/-- The name of the private root. -/
def privateName : String := ".elm-ai"

/-- The directory of a workspace in its project where no other is given. -/
def defaultDirectory : String := "elm-stuff/elm-ai"

/-- The manifest file. -/
def manifestPath (w : Workspace) : Path := w.root.child manifestName

/-- The directory of sources. -/
def sources (w : Workspace) : Path := w.root.child "src"

/-- The directory of tests. -/
def tests (w : Workspace) : Path := w.root.child "tests"

/-- The private root of compile units. -/
def privateRoot (w : Workspace) : Path := w.root.child privateName

/-- What leads from the workspace back to the project, by text alone. -/
def back (here : Path) (w : Workspace) : String := (here.relativeFrom w.root w.projectRoot).text

/-- Makes the directories of the workspace of a project unless they are there. -/
def ensure (project : Path) (directory : String) : DiskM Workspace := do
  let projectRoot ← Disk.ask (·.resolve project)
  let w : Workspace := ⟨projectRoot, projectRoot / Path.parse directory⟩
  Disk.makeDirectories w.root
  Disk.makeDirectories w.sources
  Disk.makeDirectories w.tests
  Disk.makeDirectories w.privateRoot
  return w

/-- Writes the manifest derived from one of the project. The answer is whether it was written. -/
def materialize (w : Workspace) (source : Path) : DiskM Bool := do
  let m ← Disk.ask (Manifest.load · source)
  let derived ← m.derive (w.back (← get).currentPath) privateName
  Disk.writeIfChanged w.manifestPath (← Disk.given derived.canonical)

/-- Writes the manifest that does not depend on the project. The answer is whether it was written. -/
def materializeStandalone (w : Workspace) : DiskM Bool := do
  Disk.writeIfChanged w.manifestPath (← Disk.given Manifest.standalone.canonical)

/-- Writes a file below the root of the workspace, and gives its path. -/
def writeSource (w : Workspace) (p : Path) (text : String) : DiskM Path := do
  let target := w.root / p
  let _ ← Disk.writeIfChanged target text
  return target

/-- Writes a file that must lie below the root of the workspace. -/
def writeBelow (w : Workspace) (p : Path) (text : String) : DiskM Unit := do
  match p.below? w.root with
  | some q => let _ ← w.writeSource q text
  | none => throw (.outside p w.root)

end Workspace
end ElmAssay
