import TokenBroker.Validation

/-!
# Principals

The identity on whose behalf a client is authorized. Only its name takes part in keys; requests that
name none act for the system principal.
-/

namespace TokenBroker

/-- An identity with free attributes. -/
structure Principal where
  name : String
  attributes : List (String × Json) := []
  deriving Inhabited

namespace Principal

/-- The name of the identity that stands in where there is no end user. -/
def systemName : String := "system"

/-- The identity that stands in where there is no end user. -/
def system : Principal := { name := systemName }

/-- A principal from a JSON value. -/
def ofJson : Json → Checked Principal :=
  Validate.model fun ms =>
    mk <$> Validate.required "name" Validate.string ms
      <*> Validate.defaulted "attributes" Validate.object [] ms

/-- A principal as a JSON value. -/
def toJson (p : Principal) : Json :=
  .obj [("name", .str p.name), ("attributes", .obj p.attributes)]

end Principal

/-- How a caller names the principal it acts for. -/
inductive Requester
  | nobody
  | named (name : String)
  | principal (p : Principal)
  deriving Inhabited

/-- The name under which a requester's clients are kept. -/
def Requester.principalName : Requester → String
  | .nobody => Principal.systemName
  | .named name => name
  | .principal p => p.name

end TokenBroker
