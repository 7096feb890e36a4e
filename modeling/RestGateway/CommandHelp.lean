/-!
# Help with a command

What a command is for, how it is written, and a table for each kind of its words.
-/
namespace RestGateway

structure CommandHelp where
  about : String
  usage : String
  /-- Titles and tables; a row has a word and what it means. -/
  tables : List (String × List (String × String))

namespace CommandHelp

/-- A table of which all second columns begin below each other. -/
def tableText (rows : List (String × String)) : String :=
  let width := rows.foldl (fun n (word, _) => max n word.length) 0
  String.join <| rows.map fun (word, meaning) =>
    "  " ++ word ++ String.ofList (List.replicate (width + 2 - word.length) ' ') ++ meaning ++ "\n"

def text (h : CommandHelp) : String :=
  h.about ++ "\n\nUsage: " ++ h.usage ++ "\n" ++
    String.join (h.tables.map fun (title, rows) => "\n" ++ title ++ ":\n" ++ tableText rows)

def row : String × String := ("-h, --help", "Print help")

end CommandHelp

inductive Wish (α : Type) where
  | help (h : CommandHelp)
  | act (a : α)

end RestGateway
