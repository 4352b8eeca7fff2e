import SearchSql.Connection.Request

/-!
# Sessions

A session keeps one connection and the dialects that have been registered. The only
other thing that it remembers is which indexes the last query on its connection
searched.

## Main definitions

* `Session` — what is kept between steps.
* `Step`, `Session.step` — what a step does.
-/

namespace SearchSql

/-- How a dialect is asked for. -/
inductive Target where
  /-- By a registered name. -/
  | registered (name : String)
  /-- By the dialect itself. -/
  | given (dialect : Dialect)

/-- The dialect that is asked for. -/
def Registry.resolve (registry : Registry) : Target → Checked Dialect
  | .registered name => registry.find name
  | .given dialect => .ok dialect

/-- What a connection is made of: descriptions of the known indexes and of the settings, and
a dialect. -/
structure Endpoint where
  /-- The description of the known indexes. -/
  snapshot : Option Value
  /-- The description of the settings. -/
  settings : Option Value
  /-- The dialect. -/
  target : Target

/-- The snapshot that a value describes, if there is one. -/
def Snapshot.ofOption (v : Option Value) : Checked (Option Snapshot) :=
  match v with
  | none => .ok none
  | some v => (Snapshot.ofValue v).map some

/-- The settings that a value describes, or the defaults. -/
def Settings.ofOption (v : Option Value) : Checked Settings :=
  match v with
  | none => .ok {}
  | some v => Settings.ofValue v

/-- The connection to an endpoint. -/
def Connection.ofEndpoint (registry : Registry) (endpoint : Endpoint) : Checked Connection := do
  let snapshot ← Snapshot.ofOption endpoint.snapshot
  let settings ← Settings.ofOption endpoint.settings
  let dialect ← registry.resolve endpoint.target
  return ⟨snapshot, dialect, settings⟩

/-- What a session keeps. -/
structure Session where
  /-- The registered dialects. -/
  registry : Registry
  /-- The connection. -/
  connection : Connection
  /-- The indexes that the last query on the connection searched. -/
  entities : List String

/-- A step of a session. -/
inductive Step where
  /-- A request to the connection. -/
  | request (request : Request)
  /-- A new connection in the place of the old one. -/
  | connect (endpoint : Endpoint)
  /-- A dialect under a name. -/
  | register (name : String) (dialect : Dialect)
  /-- The names of all dialects. -/
  | targets
  /-- The dialect of a name. -/
  | create (name : String)
  /-- The statement for a query on an endpoint of its own. -/
  | compile (query params : Value) (endpoint : Endpoint)

/-- The answer to a step. -/
inductive Reply where
  /-- The answer of the connection. -/
  | answer (answer : Answer)
  /-- The name of a dialect. -/
  | dialect (name : String)
  /-- The names of all dialects. -/
  | targets (names : List String)

namespace Session

/-- The statement for a query on an endpoint. The query is read before the dialect is
looked for. -/
def compileAt (registry : Registry) (query params : Value) (endpoint : Endpoint) :
    Checked Compiled := do
  let snapshot ← Snapshot.ofOption endpoint.snapshot
  let settings ← Settings.ofOption endpoint.settings
  let q ← Query.ofValue query
  let dialect ← registry.resolve endpoint.target
  Connection.build ⟨snapshot, dialect, settings⟩ q params

/-- The indexes that are remembered after a request: a query that can be read replaces
them. -/
def entitiesAfter (s : Session) : Request → List String
  | .build query params =>
    match Query.ofValue query with
    | .ok q => s.connection.entities q params
    | .error _ => s.entities
  | _ => s.entities

/-- Take a step: its reply and the session after it. -/
def step (s : Session) : Step → Checked Reply × Session
  | .request r =>
    ((s.connection.answer r).map .answer, { s with entities := s.entitiesAfter r })
  | .connect endpoint =>
    match Connection.ofEndpoint s.registry endpoint with
    | .ok c => (.ok (.dialect c.dialect.name), { s with connection := c, entities := [] })
    | .error f => (.error f, s)
  | .register name dialect =>
    let registry := s.registry.register name dialect
    (.ok (.targets registry.names), { s with registry := registry })
  | .targets => (.ok (.targets s.registry.names), s)
  | .create name => ((s.registry.find name).map fun dialect => .dialect dialect.name, s)
  | .compile query params endpoint =>
    ((compileAt s.registry query params endpoint).map fun compiled =>
      .answer (.statement compiled), s)

/-- The session on an endpoint. -/
def start (endpoint : Endpoint) : Checked Session := do
  let connection ← Connection.ofEndpoint .standard endpoint
  return ⟨.standard, connection, []⟩

end Session

end SearchSql
