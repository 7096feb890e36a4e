/-!
# International labels in ASCII

A label is written as its ASCII characters followed by numbers, one for each other character. The
others are put in from the least on, and each number says how many possible insertions, counted by
character and then by place, are passed over since the last one. Numbers are written in digits to
base 36 of which the least comes first; how many values of a digit end a number depends on the size
of the numbers before it.
-/
namespace RestGateway.Url.Punycode

def digit (n : Nat) : Char := Char.ofNat (if n < 26 then 'a'.toNat + n else '0'.toNat + (n - 26))

def digitValue? (c : Char) : Option Nat :=
  if 'a' ≤ c && c ≤ 'z' then some (c.toNat - 'a'.toNat)
  else if '0' ≤ c && c ≤ '9' then some (c.toNat - '0'.toNat + 26)
  else none

/-- A digit below the threshold is the last of its number. -/
def threshold (bias index : Nat) : Nat := max 1 (min 26 (36 * (index + 1) - bias))

theorem threshold_pos (bias index : Nat) : 1 ≤ threshold bias index := by
  unfold threshold; omega

theorem threshold_le (bias index : Nat) : threshold bias index ≤ 26 := by
  unfold threshold; omega

def biasFor (n : Nat) : Nat :=
  if 455 < n then 36 + biasFor (n / 35) else 36 * n / (n + 38)

/-- The bias after a number that led to a text of `size` characters. -/
def nextBias (number size : Nat) (isFirst : Bool) : Nat :=
  let expected := if isFirst then number / 700 else number / 2
  biasFor (expected + expected / size)

def digits (bias index n : Nat) : List Char :=
  let t := threshold bias index
  if n < t then [digit n]
  else digit (t + (n - t) % (36 - t)) :: digits bias (index + 1) ((n - t) / (36 - t))
termination_by n
decreasing_by
  have := threshold_pos bias index
  exact Nat.lt_of_le_of_lt (Nat.div_le_self _ _) (by omega)

/-- The characters beyond ASCII in the order in which they are put in, each with its place in the
text of that time. -/
def insertions (label : List Char) : List (Char × Nat) :=
  let others := label.zipIdx.filter fun (c, _) => 0x80 ≤ c.toNat
  (others.mergeSort fun a b => a.1 ≤ b.1).map fun (c, i) =>
    (c, (label.take i).countP fun d => d ≤ c)

/-- The numbers of insertions into a text of `size` characters, of which `basic` are ASCII, when the
last insertion was of the character `point` right before `place`. -/
def numbers (basic size point place bias : Nat) : List (Char × Nat) → List Char
  | [] => []
  | (c, i) :: rest =>
    let number := (c.toNat - point) * (size + 1) + i - place
    digits bias 0 number ++
      numbers basic (size + 1) c.toNat (i + 1) (nextBias number (size + 1) (size == basic)) rest

def encode (label : List Char) : List Char :=
  let basic := label.filter fun c => c.toNat < 0x80
  (if basic.isEmpty then [] else basic ++ ['-']) ++
    numbers basic.length basic.length 0x80 0 72 (insertions label)

/-- A text that is being read, with the number that has been read so far: `index` digits, the next
one of which counts `weight`. -/
structure Draft where
  text : List Char
  point : Nat := 0x80
  place : Nat := 0
  bias : Nat := 72
  index : Nat := 0
  weight : Nat := 1
  number : Nat := 0

def Draft.read? (basic : Nat) (draft : Draft) (c : Char) : Option Draft := do
  let value ← digitValue? c
  let number := draft.number + value * draft.weight
  let t := threshold draft.bias draft.index
  if t ≤ value then
    return { draft with index := draft.index + 1, weight := draft.weight * (36 - t), number }
  else
    let size := draft.text.length + 1
    let steps := draft.place + number
    let point := draft.point + steps / size
    if point.isValidChar then
      return { text := draft.text.insertIdx (steps % size) (Char.ofNat point), point
               place := steps % size + 1
               bias := nextBias number size (draft.text.length == basic) }
    else none

def decode? (cs : List Char) : Option (List Char) := do
  let rest := (cs.reverse.takeWhile fun c => c != '-').reverse
  let basic := cs.take (cs.length - rest.length - 1)
  let draft ← rest.foldlM (Draft.read? basic.length) { text := basic }
  if draft.index = 0 then some draft.text else none

end RestGateway.Url.Punycode
