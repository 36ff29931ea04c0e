import Schemata.Registry

/-! # Registries in service

Clients make requests of a registry through handles, and each request is served in one step. A
history lists the requests of all clients in the order in which they are served, so any interleaving
of what the clients do is a history.
-/
namespace Schemata

namespace Registry

inductive Request
  | register (name : String) (schema : Schema)
  | registerBoxed (name : String) (schema : Schema)
  | get (name : String)
  | contains (name : String)
  | names
  | parse (name : String) (value : Value)
  | safeParse (name : String) (value : Value)
  | safeParseBatch (name : String) (values : List Value)

inductive Response
  | registered (result : Except RegistryError Unit)
  | found (schema : Option Schema)
  | contained (answer : Bool)
  | listed (names : List String)
  | parsed (run : Run (Except RegistryError Value))
  | safelyParsed (run : Run (Except RegistryError ParseResult))
  | batch (run : Run (Except RegistryError (List ParseResult)))

/-- Serve a request. A schema that is shared already is registered like any other. -/
def serve (r : Registry) : Request → Registry × Response
  | .register name schema | .registerBoxed name schema =>
    match r.register name schema with
    | .ok r' => (r', .registered (.ok ()))
    | .error e => (r, .registered (.error e))
  | .get name => (r, .found (r.get? name))
  | .contains name => (r, .contained (r.contains name))
  | .names => (r, .listed r.names)
  | .parse name value => (r, .parsed (r.parse name value))
  | .safeParse name value => (r, .safelyParsed (r.safeParse name value))
  | .safeParseBatch name values => (r, .batch (r.safeParseBatch name values))

end Registry

namespace Registries

/-- Serve a request that a client makes through its handle. -/
def call? (rs : Registries) (client : String) (request : Registry.Request) :
    Option (Registries × Registry.Response) := do
  let r ← rs.store? client
  let (r', response) := r.serve request
  return (← rs.update? client r', response)

end Registries
end Schemata
