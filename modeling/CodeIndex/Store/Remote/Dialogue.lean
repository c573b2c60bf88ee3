import CodeIndex.Store.Point
import CodeIndex.Store.Remote.Value
import CodeIndex.Text.Line

/-!
# Dialogues with a store server

A server is asked one request at a time and answers each of them or refuses it. What a client does
is a dialogue: it is settled, or it asks and goes on as the answer says. A dialogue says nothing
about the server or about other clients, so that the same dialogue can be held with any server, and
several dialogues can take turns in any order.

## Main definitions

* `RemoteCondition`, `RemoteFilter`
* `RemoteRequest`, `RemoteReply`, `Refusal`
* `Dialogue`, `Dialogue.hold`
-/

namespace CodeIndex

universe u v

/-- How a field of a payload is compared. -/
inductive FieldMatch where
  /-- The field is this text. -/
  | keyword (text : String)
  /-- The field has the words of this text. -/
  | words (text : String)
deriving DecidableEq

/-- A condition as a server understands it. -/
structure RemoteCondition where
  field : String
  is : FieldMatch
deriving DecidableEq

/-- A filter as a server understands it: what has to hold, what may, and what must not. -/
structure RemoteFilter where
  must : List RemoteCondition
  should : List RemoteCondition
  mustNot : List RemoteCondition
deriving DecidableEq

/-- The identifier of a point as a server gives it. -/
inductive RemoteId where
  | uuid (text : String)
  | number (n : Nat)
deriving DecidableEq

/-- The text of an identifier; a point without one has the empty text. -/
def RemoteId.text : Option RemoteId → String
  | some (uuid text) => text
  | some (number n) => toString n
  | none => ""

/-- A point on its way to a server. -/
structure RemotePoint where
  id : RemoteId
  dense : List Float32
  sparse : Option SparseVector
  payload : RemotePayload

/-- A candidate list as a server understands it. -/
structure RemotePrefetch where
  probe : Probe
  limit : Nat
  filter : Option RemoteFilter

/-- What a server is asked to do. -/
inductive RemoteRequest where
  | isThere (collection : String)
  /-- Make a collection with a space of so many dimensions for dense vectors, compared by their
  angle, and, if wanted, a space for sparse ones, weighted by how rare their words are. -/
  | create (collection : String) (dimensions : Nat) (hasSparse : Bool)
  /-- Keep an index of the texts of a field. -/
  | indexField (collection field : String)
  /-- Write points, and answer before or after that is done. -/
  | upsert (collection : String) (points : List RemotePoint) (waits : Bool)
  | delete (collection : String) (filter : RemoteFilter) (waits : Bool)
  /-- Fetch points with their payloads. -/
  | fetch (collection : String) (ids : List RemoteId)
  /-- Rank points by several candidate lists, fused by reciprocal ranks. -/
  | rank (collection : String) (prefetch : List RemotePrefetch) (limit : Nat)

/-- A point that a server gives. -/
structure RemoteHit where
  id : Option RemoteId
  score : Float32
  payload : RemotePayload

/-- What a server answers. -/
inductive RemoteReply where
  | done
  | isThere (answer : Bool)
  | hits (hits : List RemoteHit)

/-- Whether a reply says that something is there. One that says nothing says no. -/
def RemoteReply.saysThere : RemoteReply → Bool
  | isThere answer => answer
  | _ => false

/-- The points of a reply. -/
def RemoteReply.points : RemoteReply → List RemoteHit
  | hits points => points
  | _ => []

/-- Why a request was not carried out. -/
inductive Refusal where
  | unreachable (detail : String)
  /-- The server said no, with a status and in its own words. -/
  | status (code : Nat) (detail : String)
deriving DecidableEq

namespace Refusal

/-- The agreed words for a status. -/
def statusText : Nat → String
  | 0 => "The operation completed successfully"
  | 1 => "The operation was cancelled"
  | 3 => "Client specified an invalid argument"
  | 4 => "Deadline expired before operation could complete"
  | 5 => "Some requested entity was not found"
  | 6 => "Some entity that we attempted to create already exists"
  | 7 => "The caller does not have permission to execute the specified operation"
  | 8 => "Some resource has been exhausted"
  | 9 => "The system is not in a state required for the operation's execution"
  | 10 => "The operation was aborted"
  | 11 => "Operation was attempted past the valid range"
  | 12 => "Operation is not implemented or not supported"
  | 13 => "Internal error"
  | 14 => "The service is currently unavailable"
  | 15 => "Unrecoverable data loss or corruption"
  | 16 => "The request does not have valid authentication credentials"
  | _ => "Unknown error"

/-- The wording of a refusal. -/
def message : Refusal → String
  | unreachable detail => "Error in the response: " ++ statusText 14 ++ " " ++ detail
  | status code detail => "Error in the response: " ++ statusText code ++ " " ++ detail

/-- Whether a refusal says that something is there already. -/
def isAlreadyThere (refusal : Refusal) : Bool :=
  Text.occursIn "already exists".toList refusal.message.toList

end Refusal

/-- What a client does: it has a result, or it asks and goes on with the answer. -/
inductive Dialogue (α : Type u) where
  | settled (result : α)
  | ask (request : RemoteRequest) (next : Except Refusal RemoteReply → Dialogue α)

namespace Dialogue

variable {α β : Type u} {σ : Type v}

/-- A dialogue followed by one that depends on its result. -/
def andThen (dialogue : Dialogue α) (next : α → Dialogue β) : Dialogue β :=
  match dialogue with
  | settled result => next result
  | ask request after => ask request fun answer => (after answer).andThen next

/-- A dialogue with its result seen differently. -/
def map (f : α → β) (dialogue : Dialogue α) : Dialogue β :=
  dialogue.andThen fun result => .settled (f result)

/-- Holds a dialogue with a server that nobody else talks to. -/
def hold (server : RemoteRequest → σ → Except Refusal RemoteReply × σ) :
    Dialogue α → σ → α × σ
  | settled result, state => (result, state)
  | ask request next, state =>
    let (answer, state) := server request state
    (next answer).hold server state

end Dialogue

end CodeIndex
