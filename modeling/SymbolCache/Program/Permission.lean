import SymbolCache.Disk.Basic

/-!
# Permissions

Who may read, write and run a file, as twelve bits: three for marks of their own and three each for
its owner, its group and all others. A change of them is an octal number or a text of clauses. One
more bit tells a pipe from other files.
-/

set_option autoImplicit false

namespace SymbolCache.Program.Permission

/-! ## Nodes -/

def usualMask : Nat := 0o022

def without (mask permission : Nat) : Nat :=
  permission - (permission &&& mask)

def whenMade (mask : Nat) : Node → Nat
  | .directory => without mask 0o777
  | .file _ => without mask 0o666

def usual : Node → Nat :=
  whenMade usualMask

example : usual .directory = 0o755 ∧ usual (.file .empty) = 0o644 := by decide

def pipeBit : Nat := 0o10000

/-- The permissions of a node at a location together with the bit that marks a pipe. -/
def withKind (disk : Disk) (location : Location) (node : Node) : Nat :=
  ((disk.permissions.find? fun entry => entry.1 == location).map Prod.snd).getD (usual node)

def of (disk : Disk) (location : Location) (node : Node) : Nat :=
  withKind disk location node % pipeBit

def isPipeAt (disk : Disk) (location : Location) : Bool :=
  pipeBit ≤ withKind disk location .directory

def isPipe (disk : Disk) (path : String) : Bool :=
  match disk.locate path with
  | .ok location => isPipeAt disk location
  | .error _ => false

/-- The disk with other permissions, together with the bit that marks a pipe, at a location. -/
def giveWithKind (disk : Disk) (location : Location) (permission : Nat) : Disk :=
  let others := disk.permissions.filter fun entry => entry.1 != location
  { disk with permissions := (location, permission) :: others }

def give (disk : Disk) (location : Location) (permission : Nat) : Disk :=
  giveWithKind disk location
    (permission % pipeBit + if isPipeAt disk location then pipeBit else 0)

def forget (disk : Disk) (isForgotten : Location → Bool) : Disk :=
  { disk with permissions := disk.permissions.filter fun entry => !isForgotten entry.1 }

/-- The disk after a change, where new nodes have the permissions that a mask leaves to them unless
they were given others. -/
def settle (mask : Nat) (before after : Disk) : Disk :=
  if mask = usualMask then after
  else
    after.nodes.toList.foldl
      (fun disk (location, node) =>
        let isGiven := after.permissions.any fun entry => entry.1 == location
        if before.nodes.contains location || isGiven then disk
        else give disk location (whenMade mask node)) after

def isRunnable (permission : Nat) : Bool :=
  permission &&& 0o111 ≠ 0

/-! ## Texts -/

/-- The three letters for who may read, write and run, where the last one also shows a mark. -/
def letters (bits : Nat) (isMarked : Bool) (mark : Char) : List Char :=
  let isRun := bits.testBit 0
  [if bits.testBit 2 then 'r' else '-', if bits.testBit 1 then 'w' else '-',
    if isMarked then (if isRun then mark else mark.toUpper) else if isRun then 'x' else '-']

def text (permission : Nat) : String :=
  String.ofList
    (letters (permission / 64) (permission.testBit 11) 's' ++
      letters (permission / 8) (permission.testBit 10) 's' ++
      letters permission (permission.testBit 9) 't')

def octal (width number : Nat) : String :=
  let digits := Nat.toDigits 8 number
  String.ofList (List.replicate (width - digits.length) '0' ++ digits)

/-! ## Changes -/

/-- What a change gives or takes: some permissions, or those that somebody has. -/
inductive Grant where
  | letters (letters : List Char)
  | sameAs (who : Char)
  deriving Repr, DecidableEq

/-- One step of a change: whom it is about, the sign of what it does, and what is granted. -/
structure Step where
  who : List Char
  sign : Char
  grant : Grant
  deriving Repr, DecidableEq

inductive Change where
  /-- The new permissions. Fewer than five digits leave the marks of a directory. -/
  | exactly (permission : Nat) (keepsMarks : Bool)
  | steps (steps : List Step)
  deriving Repr, DecidableEq

/-- Reads the steps about some people, and gives the rest. It is fuelled by the length. -/
def readSteps (who : List Char) : Nat → List Char → Option (List Step × List Char)
  | 0, _ => none
  | fuel + 1, sign :: rest =>
    if !(['+', '-', '='].contains sign) then none
    else
      let (grant, rest) : Grant × List Char := match rest with
        | 'u' :: rest => (.sameAs 'u', rest)
        | 'g' :: rest => (.sameAs 'g', rest)
        | 'o' :: rest => (.sameAs 'o', rest)
        | rest =>
          let letters := rest.takeWhile fun letter => "rwxXst".toList.contains letter
          (.letters letters, rest.drop letters.length)
      let step : Step := { who, sign, grant }
      match rest with
      | [] => some ([step], [])
      | ',' :: _ => some ([step], rest)
      | rest => (readSteps who fuel rest).map fun (steps, rest) => (step :: steps, rest)
  | _ + 1, [] => none

def readClauses : Nat → List Char → Option (List Step)
  | 0, _ => none
  | fuel + 1, text => do
    let who := text.takeWhile fun letter => "ugoa".toList.contains letter
    let (steps, rest) ← readSteps who (fuel + 1) (text.drop who.length)
    match rest with
    | ',' :: rest => return steps ++ (← readClauses fuel rest)
    | _ => return steps

def readChange (word : String) : Option Change :=
  let text := word.toList
  if !text.isEmpty && text.all fun digit => '0' ≤ digit && digit ≤ '7' then
    let permission := text.foldl (fun value digit => 8 * value + (digit.toNat - 48)) 0
    if permission < 0o10000 then some (.exactly permission (text.length < 5)) else none
  else (readClauses (text.length + 1) text).map .steps

def reach (who : List Char) : Nat :=
  who.foldl
    (fun bits letter =>
      bits ||| match letter with
        | 'u' => 0o4700
        | 'g' => 0o2070
        | 'o' => 0o1007
        | _ => 0o7777) 0

def Grant.bits (isDirectory : Bool) (permission : Nat) : Grant → Nat
  | .sameAs who =>
    let bits := match who with
      | 'u' => permission / 64 % 8
      | 'g' => permission / 8 % 8
      | _ => permission % 8
    bits * 0o111
  | .letters granted =>
    granted.foldl
      (fun bits letter =>
        bits ||| match letter with
          | 'r' => 0o444
          | 'w' => 0o222
          | 'x' => 0o111
          | 'X' => if isDirectory || isRunnable permission then 0o111 else 0
          | 's' => 0o6000
          | _ => 0o1000) 0

/-- The permissions after one step. A step about nobody does not grant those in a mask, and the
marks of a directory change only if they are granted or taken. -/
def Step.apply (mask : Nat) (isDirectory : Bool) (permission : Nat) (step : Step) : Nat :=
  let granted := step.grant.bits isDirectory permission
  let bits := granted &&& if step.who.isEmpty then 0o7777 - mask else reach step.who
  match step.sign with
  | '+' => permission ||| bits
  | '-' => permission - (permission &&& bits)
  | _ =>
    let replaced := if step.who.isEmpty then 0o7777 else reach step.who
    let kept := if isDirectory then 0o6000 - (0o6000 &&& bits) else 0
    permission - (permission &&& (replaced - (replaced &&& kept))) ||| bits

def Change.apply (mask : Nat) (isDirectory : Bool) (permission : Nat) : Change → Nat
  | .exactly changed keepsMarks =>
    if isDirectory && keepsMarks then changed ||| (permission &&& 0o6000) else changed
  | .steps all => all.foldl (Step.apply mask isDirectory) permission

end SymbolCache.Program.Permission
