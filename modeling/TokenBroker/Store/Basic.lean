import TokenBroker.Json.Reader
import TokenBroker.Store.Table
import TokenBroker.Log

/-!
# Stores of authorized clients

At most one client for each key. A store in memory keeps the clients themselves. A store on disk
keeps JSON values without the client secret, and reads them back; a value that does not fit is
dropped when it is loaded, as if nothing were stored.

The entries of a store on disk can be written as one text, an `Archive`: an array with the two parts
of the key and the value of each.
-/

namespace TokenBroker

/-- The kinds of store. -/
inductive StoreKind
  | memory
  | disk
  deriving DecidableEq, Repr

/-- The name of a store's class. -/
def StoreKind.className : StoreKind → String
  | .memory => "InMemoryAuthorizedClientStore"
  | .disk => "DiskAuthorizedClientStore"

/-- The kind of store of a backend's name. -/
def StoreKind.ofName? : String → Option StoreKind
  | "memory" => some .memory
  | "disk" => some .disk
  | _ => none

/-- What a store holds. -/
inductive Store
  | memory (clients : Table Key AuthorizedClient)
  | disk (values : Table Key Json)

namespace Store

/-- The store of a kind that holds nothing. -/
def empty : StoreKind → Store
  | .memory => .memory []
  | .disk => .disk []

/-- The kind of a store. -/
def kind : Store → StoreKind
  | .memory _ => .memory
  | .disk _ => .disk

/-- The JSON value that a store on disk keeps of a client. -/
def written (c : AuthorizedClient) : Json := c.toJson .letter false

/-- The client that a kept value stands for. -/
def readBack (j : Json) : Except Invalid AuthorizedClient :=
  (AuthorizedClient.ofJson j).named "AuthorizedClient"

/-- What loading a key gives: a client, the store afterwards, and entries of the log. -/
structure Loaded where
  client : Option AuthorizedClient
  store : Store
  log : List LogEntry

/-- Removes the client of a key. -/
def remove : Store → Key → Store
  | .memory t, k => .memory (t.erase k)
  | .disk t, k => .disk (t.erase k)

/-- Whether a kept value counts as nothing stored: null, and what is no number, which is kept as
null. -/
def isNothing : Json → Bool
  | .null => true
  | .float .nan => true
  | _ => false

/-- Loads the client of a key. Any value that does not fit is removed, unless it counts as nothing
stored. -/
def load (s : Store) (k : Key) : Loaded :=
  match s with
  | .memory t => ⟨t.get? k, s, []⟩
  | .disk t =>
    match t.get? k with
    | none => ⟨none, s, []⟩
    | some j =>
      if isNothing j then ⟨none, s, []⟩
      else
        match readBack j with
        | .ok c => ⟨some c, s, []⟩
        | .error e => ⟨none, s.remove k, [.discarded k e]⟩

/-- Saves a client under its key in place of any other. -/
def save : Store → AuthorizedClient → Store
  | .memory t, c => .memory (t.put c.key c)
  | .disk t, c => .disk (t.put c.key (written c))

/-- Puts a JSON value under a key of a store on disk. -/
def putValue : Store → Key → Json → Store
  | .memory t, _, _ => .memory t
  | .disk t, k, j => .disk (t.put k j)

/-- Removes everything. -/
def clear (s : Store) : Store := empty s.kind

/-- The number of entries. -/
def size : Store → Nat
  | .memory t => t.length
  | .disk t => t.length

/-- The values that a store on disk keeps. -/
def values : Store → Table Key Json
  | .memory _ => []
  | .disk t => t

end Store

namespace Archive

/-- An entry as it is written. -/
def entryJson (e : Key × Json) : Json := .arr [.str e.1.registrationId, .str e.1.principalName, e.2]

/-- The entry that a value stands for. -/
def entry? : Json → Option (Key × Json)
  | .arr [.str registrationId, .str principalName, value] =>
    some (⟨registrationId, principalName⟩, value)
  | _ => none

/-- Entries as a text. -/
def write (entries : Table Key Json) : String :=
  (Json.arr (entries.map entryJson)).render .portable ++ "\n"

/-- The entries of a text; what is no entry is left out. -/
def read (text : String) : Table Key Json :=
  match Json.read text with
  | .ok (.arr js) => js.filterMap entry?
  | _ => []

theorem entry?_entryJson (e : Key × Json) : entry? (entryJson e) = some e := rfl

end Archive

end TokenBroker
