import SymbolCache.Program.Utility.Calculation
import SymbolCache.Program.Utility.Checksum
import SymbolCache.Program.Utility.Column
import SymbolCache.Program.Utility.Condition
import SymbolCache.Program.Utility.Line
import SymbolCache.Program.Utility.Edit
import SymbolCache.Program.Utility.Copying
import SymbolCache.Program.Utility.Dump
import SymbolCache.Program.Utility.Encoding
import SymbolCache.Program.Utility.Format
import SymbolCache.Program.Utility.Listing
import SymbolCache.Program.Utility.Order
import SymbolCache.Program.Utility.Print
import SymbolCache.Program.Utility.Replace
import SymbolCache.Program.Utility.Search
import SymbolCache.Program.Utility.Sequence

/-!
# The utilities of a system

Which utility a name stands for. One of them waits.
-/

set_option autoImplicit false

namespace SymbolCache.Program.Utility

/-! ## Waiting -/

/-- The length of a wait: a number of seconds, minutes, hours or days, which may have a fraction. -/
def interval? (word : String) : Option Duration :=
  if word = "infinity" then some forever
  else
    let (text, unit) := match word.toList.getLast?.bind Duration.unitSeconds? with
      | some unit => (word.toList.dropLast, unit)
      | none => (word.toList, 1)
    let whole := text.takeWhile Text.isAsciiDigit
    let fraction := match text.drop whole.length with
      | '.' :: digits => some digits
      | [] => some []
      | _ => none
    fraction.bind fun fraction =>
      if whole.isEmpty && fraction.isEmpty || !fraction.all Text.isAsciiDigit then none
      else
        let digits := fraction.take 9
        let nanoseconds :=
          Text.digitsValue 0 (whole ++ digits ++ List.replicate (9 - digits.length) '0')
        some ⟨nanoseconds * unit⟩

def sleep : Utility :=
  withOptions { name := "sleep" } fun options =>
    if options.words.isEmpty then return misuse 1 "sleep" "missing operand"
    else
      match options.words.find? fun word => (interval? word).isNone with
      | some word => return misuse 1 "sleep" ("invalid time interval " ++ escaped word)
      | none =>
        let intervals := options.words.filterMap interval?
        return { elapsed := ⟨Text.total (intervals.map Duration.nanoseconds)⟩ }

/-! ## Names -/

def table : List (String × Utility) :=
  [("[", condition "["), ("base32", base32), ("base64", base64), ("basename", basename),
    ("cat", cat), ("chmod", chmod), ("comm", comm), ("cp", cp), ("cut", cut), ("dirname", dirname),
    ("echo", fun words => return echo .program words),
    ("egrep", fun words => grep ("-E" :: words)), ("expand", expand),
    ("expr", expr),
    ("false", fun _ => return .ofBool false), ("fgrep", fun words => grep ("-F" :: words)),
    ("fold", fold), ("grep", grep), ("head", head), ("install", install), ("join", join),
    ("ls", ls), ("mkdir", mkdir), ("mkfifo", mkfifo), ("mv", mv), ("nl", nl), ("od", od),
    ("paste", paste),
    ("printf", fun words => return printf .program words), ("pwd", pwd), ("readlink", readlink),
    ("realpath", realpath), ("rev", rev), ("rm", rm), ("rmdir", rmdir), ("sed", Edit.sed),
    ("seq", seq), ("sleep", sleep), ("sort", sort), ("stat", stat), ("tac", tac), ("tail", tail),
    ("tee", tee), ("test", condition "test"), ("touch", touch), ("tr", tr),
    ("true", fun _ => return {}), ("truncate", truncate), ("unexpand", unexpand), ("uniq", uniq),
    ("unlink", unlink), ("wc", wc), ("yes", yes)] ++ checksumTable
where
  condition (name : String) : Utility := fun words =>
    return Condition.test .program (← get).disk name words

def named? (name : String) : Option Utility :=
  (table.find? fun entry => entry.1 == name).map Prod.snd

/-! ## Other names -/

/-- A message of a utility that is called by another name than its own. Some have only their own
name in what they say about their usage. -/
def messageAs (own name : String) (message : String) : String :=
  let message :=
    if message.startsWith (own ++ ": ") then name ++ (message.drop own.length).toString
    else message
  if own = "grep" then message
  else
    (message.replace ("Usage: " ++ own ++ " ") ("Usage: " ++ name ++ " ")).replace
      ("Try '" ++ own ++ " --help'") ("Try '" ++ name ++ " --help'")

/-- What a utility leaves behind that is called by another name than its own, which some put in
front of their messages all the same. -/
def calledAs (own name : String) (outcome : Outcome) : Outcome :=
  if own = name || ["egrep", "fgrep", "rev"].contains own then outcome
  else
    { outcome with
      written := outcome.written.map fun (stream, content) =>
        match stream with
        | .output => (stream, content)
        | .messages => (stream, bytes (messageAs own name (Text.decodeLossy content))) }

end SymbolCache.Program.Utility
