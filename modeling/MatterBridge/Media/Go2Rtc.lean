import MatterBridge.Core.HashMap

/-!
# The go2rtc stream table and its REST client

The server is a table from stream names to producer URLs. Its listing may report
a URL in another spelling than the one registered. A call may get lost before it
reaches the server or after it took effect; the client then sees an error, as it
does for an unsuccessful status. Error texts are only logged and left out.
-/
namespace MatterBridge.Media

open MatterBridge.Core

/-- Stream name to registered producer URL. -/
abbrev StreamTable := HashMap String String

inductive Request where
  | getStreams
  | putStream (name url : String)
  | deleteStream (name : String)
  deriving DecidableEq, Repr

inductive Response where
  /-- The listing: the producer URLs of each stream. -/
  | streams (producers : String → Option (List String))
  | status (code : Nat)

/-- What becomes of one call. -/
inductive Delivery where
  | delivered
  /-- It never reaches the server. -/
  | lost
  /-- It takes effect but no response comes back. -/
  | unanswered
  deriving DecidableEq, Repr

def serve (report : String → String) (table : StreamTable) : Request → StreamTable × Response
  | .getStreams => (table, .streams fun name => (table.lookup name).map fun url => [report url])
  | .putStream name url =>
    if name ∈ table then (table, .status 400) else (table.insert name url, .status 200)
  | .deleteStream name =>
    if name ∈ table then (table.erase name, .status 200) else (table, .status 404)

/-- The table afterwards and what the client receives. -/
def exchange (report : String → String) (table : StreamTable) (request : Request) :
    Delivery → StreamTable × Option Response
  | .delivered => ((serve report table request).1, some (serve report table request).2)
  | .lost => (table, none)
  | .unanswered => ((serve report table request).1, none)

def isSuccess (code : Nat) : Bool := decide (200 ≤ code ∧ code < 300)

/-- Whether `add_stream` returns `Ok`. -/
def addStream : Option Response → Bool
  | none => false
  | some (.status code) => isSuccess code
  | some (.streams _) => true

/-- Whether `remove_stream` returns `Ok`; it tolerates 404. -/
def removeStream : Option Response → Bool
  | none => false
  | some (.status code) => isSuccess code || code == 404
  | some (.streams _) => true

/-- Registration state of a named stream in go2rtc. -/
inductive StreamState where
  | absent
  | matched
  | differs (stored : String)
  | unknown
  deriving DecidableEq, Repr

def streamState (reply : Option Response) (name expectedUrl : String) : StreamState :=
  match reply with
  | some (.streams producers) =>
    match producers name with
    | none => .absent
    | some urls =>
      let stored := urls.head?.getD ""
      if stored = expectedUrl then .matched else .differs stored
  | _ => .unknown

/-- The stream a request changes. -/
def Request.target : Request → Option String
  | .getStreams => none
  | .putStream name _ => some name
  | .deleteStream name => some name

/-- Whatever becomes of a call, it changes no stream but the one it names. -/
theorem lookup_exchange_ne (report : String → String) (table : StreamTable) {request : Request}
    {name : String} (h : request.target ≠ some name) (d : Delivery) :
    (exchange report table request d).1.lookup name = table.lookup name := by
  have hserve : (serve report table request).1.lookup name = table.lookup name := by
    cases request with
    | getStreams => rfl
    | putStream k url =>
      have hk : name ≠ k := fun he => h (congrArg some he.symm)
      rw [serve]
      split
      · rfl
      · exact Finmap.lookup_insert_of_ne table hk
    | deleteStream k =>
      have hk : name ≠ k := fun he => h (congrArg some he.symm)
      rw [serve]
      split
      · exact Finmap.lookup_erase_ne hk
      · rfl
  cases d with
  | delivered => exact hserve
  | lost => rfl
  | unanswered => exact hserve

end MatterBridge.Media
