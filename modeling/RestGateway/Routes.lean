import RestGateway.Dict
import RestGateway.Text.Lowercase
import RestGateway.Verb

/-!
# Routes

A route is a path template and a verb. A method with an entry in the table has its template; any
other method has a template made of a common start and its name in small letters.
-/
namespace RestGateway

/-- The templates of methods, and the start of the template of any other method. -/
structure Routes where
  table : Dict String
  fallbackStart : String
  deriving DecidableEq, Repr

structure Route where
  template : String
  verb : Verb
  deriving DecidableEq, Repr

namespace Routes

def isMapped (routes : Routes) (method : String) : Bool := routes.table.contains method

/-- The template of a method that has no entry. -/
def fallback (routes : Routes) (method : String) : String :=
  routes.fallbackStart ++ Text.lowercase method

def resolve (routes : Routes) (method : String) : Route :=
  { template := (routes.table.find? method).getD (routes.fallback method)
    verb := Verb.infer method }

end Routes

end RestGateway
