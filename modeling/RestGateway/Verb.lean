import RestGateway.Json.Choice

/-!
# Verbs of requests

The verb of a call follows from the beginning of its method name, and the place of its payload from
the verb.
-/
namespace RestGateway

inductive Verb where
  | get
  | post
  | put
  | delete
  deriving DecidableEq, Repr

/-- Where a payload goes. -/
inductive Placement where
  | json
  | query
  | omitted
  deriving DecidableEq, Repr

def Placement.name : Placement → String
  | json => "json"
  | query => "query"
  | omitted => "omitted"

namespace Verb

def name : Verb → String
  | get => "GET"
  | post => "POST"
  | put => "PUT"
  | delete => "DELETE"

def all : List Verb := [get, post, put, delete]

/-- The verb of a method: whatever does not create, delete or update only reads. -/
def infer (method : String) : Verb :=
  if "Create".toList.isPrefixOf method.toList then post
  else if "Delete".toList.isPrefixOf method.toList then delete
  else if "Update".toList.isPrefixOf method.toList then put
  else get

def placement : Verb → Placement
  | get => .query
  | post => .json
  | put => .json
  | delete => .omitted

/-- The verb that a JSON text names. -/
def decode (text : String) : Except Json.Error Verb :=
  Json.decodeWith (Json.readChoice (all.map fun verb => (verb.name, verb))) text.toList

end Verb

end RestGateway
