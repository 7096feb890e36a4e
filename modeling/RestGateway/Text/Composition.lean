import RestGateway.Text.CompositionTable

/-!
# Composed text

A letter with marks can be written in several ways. `composed` chooses one of them: every character
is taken apart, the marks of a letter are sorted by their class, and what has a character of its own
is put together again. Syllables of the Korean alphabet are composed by a formula, all others by a
table.
-/
namespace RestGateway.Text

def partsIn (c : Char) : List Char → Option (Char × Char)
  | whole :: first :: second :: rest =>
    if whole = c then some (first, second) else partsIn c rest
  | _ => none

def wholeIn (a b : Char) : List Char → Option Char
  | whole :: first :: second :: rest =>
    if first = a && second = b then some whole else wholeIn a b rest
  | _ => none

/-- The first syllable; each of 19 consonants is followed by 21 vowels with 28 endings. -/
def firstSyllable : Nat := 0xAC00
def firstConsonant : Nat := 0x1100
def firstVowel : Nat := 0x1161
def noEnding : Nat := 0x11A7

def parts? (c : Char) : Option (Char × Char) :=
  let n := c.toNat - firstSyllable
  if c.toNat < firstSyllable || 19 * 21 * 28 ≤ n then partsIn c compositions
  else if n % 28 = 0 then
    some (Char.ofNat (firstConsonant + n / 28 / 21), Char.ofNat (firstVowel + n / 28 % 21))
  else some (Char.ofNat (c.toNat - n % 28), Char.ofNat (noEnding + n % 28))

def whole? (a b : Char) : Option Char :=
  let consonant := a.toNat - firstConsonant
  let vowel := b.toNat - firstVowel
  let syllable := a.toNat - firstSyllable
  let ending := b.toNat - noEnding
  if firstConsonant ≤ a.toNat && consonant < 19 && firstVowel ≤ b.toNat && vowel < 21 then
    some (Char.ofNat (firstSyllable + (consonant * 21 + vowel) * 28))
  else if firstSyllable ≤ a.toNat && syllable < 19 * 21 * 28 && syllable % 28 = 0 &&
      noEnding < b.toNat && ending < 28 then
    some (Char.ofNat (a.toNat + ending))
  else wholeIn a b compositions

/-- A character in its last parts. No character can be taken apart more than `depth` times. -/
def takenApart : (depth : Nat) → Char → List Char
  | 0, c => [c]
  | depth + 1, c =>
    match parts? c with
    | some (a, b) => takenApart depth a ++ [b]
    | none => [c]

def combiningClass (c : Char) : Nat :=
  match combiningClasses.find? fun (first, last, _) => first ≤ c.toNat && c.toNat ≤ last with
  | some (_, _, k) => k
  | none => 0

/-- Puts a character in front of sorted text: behind the marks of a lower class. -/
def insertMark (c : Char) : List Char → List Char
  | [] => [c]
  | d :: rest =>
    if combiningClass d ≠ 0 && combiningClass d < combiningClass c then d :: insertMark c rest
    else c :: d :: rest

/-- A mark of the same or a higher class keeps a character apart from its letter. -/
def isBlocked (marks : List Char) (c : Char) : Bool :=
  marks.getLast?.any fun d => combiningClass c ≤ combiningClass d

def absorb (letter : Char) (marks : List Char) : List Char → List Char
  | [] => letter :: marks
  | c :: rest =>
    match if isBlocked marks c then none else whole? letter c with
    | some whole => absorb whole marks rest
    | none =>
      if combiningClass c = 0 then letter :: (marks ++ absorb c [] rest)
      else absorb letter (marks ++ [c]) rest

def composed (cs : List Char) : List Char :=
  match (cs.flatMap (takenApart 3)).foldr insertMark [] with
  | [] => []
  | c :: rest => absorb c [] rest

end RestGateway.Text
