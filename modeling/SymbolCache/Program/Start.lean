import SymbolCache.Program.Shell

/-!
# Starting programs

Which program a name stands for, and why some cannot be started. Names without a slash are looked
for in the directories of the system; other names are paths. Only the programs of the system can be
run.

The programs stand apart from the store and its theory: no other module makes use of them. There,
what a command answers is a parameter of every run.
-/

set_option autoImplicit false

namespace SymbolCache.Program

def argumentLimit : Nat := 131071

def wordError? (invocation : Invocation) : Option FileError :=
  let words := invocation.program :: invocation.arguments
  if words.any fun word => word.toList.contains '\x00' then some .invalidCommand
  else if invocation.arguments.any fun word => argumentLimit < word.utf8ByteSize then
    some .argumentsTooLong
  else none

def start (disk : Disk) (invocation : Invocation) : Except FileError Outcome := do
  let disk := System.withSystem disk
  match wordError? invocation with
  | some error => throw error
  | none =>
    let path ← System.locateProgram disk System.searchPath invocation.program
    let executable ← System.executableAt disk path
    return Shell.execute disk executable invocation.program invocation.arguments

end SymbolCache.Program
