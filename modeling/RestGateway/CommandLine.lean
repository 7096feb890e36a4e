import RestGateway.Text.Digit

/-!
# Command lines

The words of a command line are options with a value and other words, in any order. An option is
given once. Its value follows as the next word, or in the same word: behind an equals sign, or right
after the letter of a short option. Two hyphens end the options. Where help is asked for, nothing
else is read.
-/
namespace RestGateway

structure CommandOption where
  long : String
  short : Option Char
  deriving DecidableEq, Repr

/-- The values of the options by their long names, and the other words. -/
structure CommandLine where
  values : List (String × String)
  words : List String
  asksForHelp : Bool := false
  deriving DecidableEq, Repr

namespace CommandLine

def empty : CommandLine := ⟨[], [], false⟩

def value? (c : CommandLine) (long : String) : Option String := c.values.lookup long

def addValue (c : CommandLine) (long value : String) : Option CommandLine :=
  if (c.value? long).isSome then none else some { c with values := c.values ++ [(long, value)] }

def addWord (c : CommandLine) (word : String) : CommandLine := { c with words := c.words ++ [word] }

inductive Meaning where
  | word
  /-- Only words follow. -/
  | endOfOptions
  | help
  | option (long : String) (value : Option String)
  | unknown
  deriving DecidableEq, Repr

def longMeaning (options : List CommandOption) (cs : List Char) : Meaning :=
  let name := cs.takeWhile (· != '=')
  if cs = "help".toList then .help else
  match options.find? fun o => o.long.toList == name with
  | none => .unknown
  | some o =>
    match cs.drop name.length with
    | _ :: value => .option o.long (some (String.ofList value))
    | [] => .option o.long none

def shortMeaning (options : List CommandOption) (letter : Char) (cs : List Char) : Meaning :=
  if letter = 'h' then .help else
  match options.find? fun o => o.short == some letter with
  | none => .unknown
  | some o =>
    match cs with
    | [] => .option o.long none
    | '=' :: value => .option o.long (some (String.ofList value))
    | value => .option o.long (some (String.ofList value))

def meaning (options : List CommandOption) (s : String) : Meaning :=
  match s.toList with
  | ['-'] => .word
  | ['-', '-'] => .endOfOptions
  | '-' :: '-' :: cs => longMeaning options cs
  | '-' :: letter :: cs => shortMeaning options letter cs
  | _ => .word

/-- Read a command line up to the word at which `stop` says to stop, and give what follows as
well. -/
def readUntil (options : List CommandOption) (stop : String → Bool) :
    CommandLine → List String → Option (CommandLine × List String)
  | c, [] => some (c, [])
  | c, s :: rest =>
    match meaning options s with
    | .unknown => none
    | .help => some ({ c with asksForHelp := true }, [])
    | .endOfOptions => some (rest.foldl addWord c, [])
    | .word => if stop s then some (c, s :: rest) else readUntil options stop (c.addWord s) rest
    | .option long (some value) => do readUntil options stop (← c.addValue long value) rest
    | .option long none =>
      match rest with
      | [] => none
      | value :: rest =>
        if meaning options value = .word then do
          readUntil options stop (← c.addValue long value) rest
        else none

def read (options : List CommandOption) (args : List String) : Option CommandLine :=
  (readUntil options (fun _ => false) empty args).map Prod.fst

def natural? (s : String) : Option Nat :=
  let digits := match s.toList with
    | '+' :: rest => rest
    | cs => cs
  if !digits.isEmpty && digits.all Text.isDigit &&
        Text.decimalValue digits < 0x10000000000000000 then
    some (Text.decimalValue digits)
  else none

end CommandLine

end RestGateway
