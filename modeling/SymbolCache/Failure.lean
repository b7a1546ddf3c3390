import SymbolCache.Duration

/-!
# Failures

Why an operation failed, with the message that says so. Failures fall into four categories: an
outside command failed, something could not be read, a snapshot does not fit, or anything else.
-/

set_option autoImplicit false

namespace SymbolCache

inductive FileError where
  | notFound
  | permissionDenied
  | alreadyExists
  | notDirectory
  | isDirectory
  | busy
  | nameTooLong
  | tooManyLinks
  | storageFull
  | argumentsTooLong
  | invalidPath
  /-- The name of a program or one of its arguments has a zero character in it. -/
  | invalidCommand
  | invalidText
  deriving Repr, DecidableEq

namespace FileError

def reason : FileError → String
  | .notFound => "No such file or directory"
  | .permissionDenied => "Permission denied"
  | .alreadyExists => "File exists"
  | .notDirectory => "Not a directory"
  | .isDirectory => "Is a directory"
  | .busy => "Device or resource busy"
  | .nameTooLong => "File name too long"
  | .tooManyLinks => "Too many levels of symbolic links"
  | .storageFull => "No space left on device"
  | .argumentsTooLong => "Argument list too long"
  | .invalidPath => "file name contained an unexpected NUL byte"
  | .invalidCommand => "nul byte found in provided data"
  | .invalidText => "stream did not contain valid UTF-8"

/-- The number that the system has for an error that it reports. -/
def number? : FileError → Option Nat
  | .notFound => some 2
  | .permissionDenied => some 13
  | .alreadyExists => some 17
  | .notDirectory => some 20
  | .isDirectory => some 21
  | .busy => some 16
  | .nameTooLong => some 36
  | .tooManyLinks => some 40
  | .storageFull => some 28
  | .argumentsTooLong => some 7
  | .invalidPath | .invalidCommand | .invalidText => none

/-- The message of a file error. Those that the system reports carry its number for them. -/
def message (error : FileError) : String :=
  match error.number? with
  | some number => error.reason ++ " (os error " ++ toString number ++ ")"
  | none => error.reason

end FileError

/-- The category of a failure, by which callers decide what to fall back to. -/
inductive FailureCategory where
  | execution
  | parse
  | validation
  | other
  deriving Repr, DecidableEq

def FailureCategory.word : FailureCategory → String
  | .execution => "execution"
  | .parse => "parse"
  | .validation => "validation"
  | .other => "other"

inductive Failure where
  /-- A command ended with a status other than zero, or with a signal and so without status. -/
  | execution (command : String) (status : Option Int) (output : String)
  | spawn (command : String) (cause : FileError)
  | timeout (command : String) (limit : Duration)
  /-- The output of a command or the content of a file is not what it should be. -/
  | parse (context detail : String)
  | schemaVersionMismatch (found expected : Nat)
  | toolchainMismatch (found expected : String)
  /-- There is no toolchain version to stamp a snapshot with. -/
  | toolchainUnknown
  | file (cause : FileError)
  | serialization
  | configExists (path : String)
  | configParse
  | globPattern (detail : String)
  | refreshInProgress
  deriving Repr, DecidableEq

namespace Failure

def category : Failure → FailureCategory
  | .execution .. | .spawn .. | .timeout .. => .execution
  | .parse .. | .serialization => .parse
  | .schemaVersionMismatch .. | .toolchainMismatch .. | .toolchainUnknown => .validation
  | .file _ | .configExists _ | .configParse | .globPattern _ | .refreshInProgress => .other

/-- The message of a failure. What is wrong inside a JSON text or a configuration is not said. -/
def message : Failure → String
  | .execution command status output =>
    "Command \x60" ++ command ++ "\x60 failed (exit " ++
      (match status with
        | some status => toString status
        | none => "signal") ++
      "): " ++ output
  | .spawn command cause => "Failed to spawn \x60" ++ command ++ "\x60: " ++ cause.message
  | .timeout command limit =>
    "Command \x60" ++ command ++ "\x60 timed out after " ++ limit.describe
  | .parse context detail => "Parse error in " ++ context ++ ": " ++ detail
  | .schemaVersionMismatch found expected =>
    "Schema version mismatch: snapshot is v" ++ toString found ++ ", expected v" ++
      toString expected
  | .toolchainMismatch found expected =>
    "Toolchain version mismatch: snapshot built with " ++ found ++ ", current is " ++ expected
  | .toolchainUnknown => "Toolchain version unknown (is the go binary on PATH?)"
  | .file cause => "IO error: " ++ cause.message
  | .serialization => "Serialization error: "
  | .configExists path => "Config already exists at " ++ path
  | .configParse => "Config parse error: "
  | .globPattern detail => "Glob pattern error: " ++ detail
  | .refreshInProgress => "A refresh is already in progress"

end Failure

end SymbolCache
