import RestGateway.Text.Quoted

/-!
# A document that does not have the expected shape

What a decoder finds in place of what it looks for, and the message about it. JSON texts and
configuration documents are decoded with the same messages.
-/
namespace RestGateway

inductive Found where
  | null
  | bool (value : Bool)
  | integer (value : Int)
  | float (shown : String)
  | string (value : String)
  | sequence
  | map
  deriving DecidableEq, Repr

inductive Mismatch where
  | wrongType (found : Found) (expected : String)
  | wrongValue (found : Found) (expected : String)
  | wrongLength (length : Nat) (expected : String)
  | missingField (name : String)
  | duplicateField (name : String)
  | unknownVariant (name : String) (known : List String)
  /-- The form of a variant that is neither a name nor a table with one entry. -/
  | variantForm (text : String)
  deriving DecidableEq, Repr

namespace Found

def message : Found → String
  | null => "null"
  | bool true => "boolean `true`"
  | bool false => "boolean `false`"
  | integer n => "integer `" ++ toString n ++ "`"
  | float shown => "floating point `" ++ shown ++ "`"
  | string s => "string " ++ Text.quoted s
  | sequence => "sequence"
  | map => "map"

end Found

namespace Mismatch

def marked (name : String) : String := "`" ++ name ++ "`"

def alternatives : List String → String
  | [] => "there are no variants"
  | [a] => marked a
  | [a, b] => marked a ++ " or " ++ marked b
  | many => "one of " ++ ", ".intercalate (many.map marked)

def message : Mismatch → String
  | wrongType found expected => "invalid type: " ++ found.message ++ ", expected " ++ expected
  | wrongValue found expected => "invalid value: " ++ found.message ++ ", expected " ++ expected
  | wrongLength n expected => "invalid length " ++ toString n ++ ", expected " ++ expected
  | missingField name => "missing field " ++ marked name
  | duplicateField name => "duplicate field " ++ marked name
  | unknownVariant name known =>
    "unknown variant " ++ marked name ++ ", expected " ++ alternatives known
  | variantForm text => text

end Mismatch

end RestGateway
