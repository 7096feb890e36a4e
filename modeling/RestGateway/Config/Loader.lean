import RestGateway.Config.Decoder
import RestGateway.Config.Rules
import RestGateway.Toml.Parser

/-!
# Loading a configuration

A configuration is read from the text of a file and has to keep all rules.
-/
namespace RestGateway.Config

inductive FileProblem where
  | notFound
  | isDirectory
  | notText
  | nulInName
  | nameTooLong
  | denied
  /-- The system reports something else. -/
  | other (words : String)
  deriving DecidableEq, Repr

namespace FileProblem

def message : FileProblem → String
  | notFound => "No such file or directory (os error 2)"
  | isDirectory => "Is a directory (os error 21)"
  | notText => "stream did not contain valid UTF-8"
  | nulInName => "file name contained an unexpected NUL byte"
  | nameTooLong => "File name too long (os error 36)"
  | denied => "Permission denied (os error 13)"
  | other words => words

def systemShown (code : Nat) (kind message : String) : String :=
  "Os" ++ Problem.record
    [("code", toString code), ("kind", kind), ("message", Text.quoted message)]

def simpleShown (kind message : String) : String :=
  "Error" ++ Problem.record [("kind", kind), ("message", Text.quoted message)]

def shown : FileProblem → String
  | notFound => systemShown 2 "NotFound" "No such file or directory"
  | isDirectory => systemShown 21 "IsADirectory" "Is a directory"
  | notText => simpleShown "InvalidData" notText.message
  | nulInName => simpleShown "InvalidInput" nulInName.message
  | nameTooLong => systemShown 36 "InvalidFilename" "File name too long"
  | denied => systemShown 13 "PermissionDenied" "Permission denied"
  | other words => simpleShown "Other" words

end FileProblem

inductive LoadError where
  | file (path : String) (reason : FileProblem)
  | notToml
  | mismatch (reason : Mismatch)
  | invalid (problems : List Problem)
  deriving DecidableEq, Repr

namespace LoadError

def name : LoadError → String
  | file _ _ => "Io"
  | notToml => "Parse"
  | mismatch _ => "Parse"
  | invalid _ => "Validation"

/-- What the error says; nothing is said about a text that is not TOML. -/
def message? : LoadError → Option String
  | file path reason => some ("IO error reading " ++ path ++ ": " ++ reason.message)
  | notToml => none
  | mismatch (.variantForm _) => none
  | mismatch reason => some reason.message
  | invalid problems =>
    some ("Validation failed: " ++ ", ".intercalate (problems.map Problem.message))

/-- The error as a value, as a command shows it that ends because of it. -/
def shown : LoadError → String
  | file path reason =>
    "Io" ++ Problem.record [("path", Text.quoted path), ("source", reason.shown)]
  | notToml => "Parse(Error)"
  | mismatch reason => "Parse(Error" ++
      Problem.record [("message", Text.quoted reason.message)] ++ ")"
  | invalid problems => "Validation([" ++ ", ".intercalate (problems.map Problem.shown) ++ "])"

end LoadError

def checked (c : Config) : Except LoadError Config :=
  match c.problems with
  | [] => .ok c
  | problems => .error (.invalid problems)

def parse (text : String) : Except LoadError Config :=
  match Toml.parse text with
  | none => .error .notToml
  | some d =>
    match ofDocument .tables d with
    | .ok c => checked c
    | .error reason => .error (.mismatch reason)

def load (path : String) (contents : Except FileProblem (List UInt8)) : Except LoadError Config :=
  match contents with
  | .error reason => .error (.file path reason)
  | .ok bytes =>
    match Url.utf8Text? bytes with
    | some text => parse (String.ofList text)
    | none => .error (.file path .notText)

end RestGateway.Config
