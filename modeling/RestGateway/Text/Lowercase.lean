import RestGateway.Text.CaseTable

/-!
# Text in small letters

Every character has its own small form, with two exceptions: the dotted capital I becomes two
characters, and a sigma that ends a word becomes the final one. A sigma ends a word when a letter
with case comes before it and none after it, characters without influence on case set aside.
-/
namespace RestGateway.Text

def capitalSigma : Char := 'Σ'

def smallLetter (c : Char) : Char :=
  if c.toNat < 0x80 then c.toLower
  else
    match lowercaseRuns.find? fun (first, last, step, _) =>
      first ≤ c.toNat && c.toNat ≤ last && (c.toNat - first) % step == 0 with
    | some (_, _, _, distance) => Char.ofNat (c.toNat + distance).toNat
    | none => c

def startsCased (cs : List Char) : Bool :=
  match cs.dropWhile caseIgnorableRanges.contains with
  | [] => false
  | c :: _ => casedRanges.contains c

/-- The small form of `c` between the characters before it, nearest first, and after it. -/
def smallForm (before : List Char) (c : Char) (after : List Char) : List Char :=
  if c = capitalSigma then
    if startsCased before && !startsCased after then ['ς'] else ['σ']
  else if c = 'İ' then ['i', '\u0307']
  else [smallLetter c]

def smallForms (before : List Char) : List Char → List Char
  | [] => []
  | c :: after => smallForm before c after ++ smallForms (c :: before) after

def lowercase (s : String) : String := String.ofList (smallForms [] s.toList)

end RestGateway.Text
