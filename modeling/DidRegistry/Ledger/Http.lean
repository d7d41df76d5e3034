import DidRegistry.Json.Canonical
import DidRegistry.Json.Reader
import DidRegistry.Url.Basic

/-!
# Exchanges over HTTP

A request is an object that is posted as JSON to an address.  Its response counts when the status says
success and the body is the text of an object, in whatever encoding the bytes themselves say.  A
redirection is not followed, but where it leads has to be an address.

## Results

* `Http.Request.make_body` — what is sent is what was to be posted.
* `Http.Request.receive_broken` — a connection that fails is no answer.
-/

set_option autoImplicit false

namespace DidRegistry.Http

/-- What comes back over the wire. -/
inductive Reply where
  /-- A response; the location says where a redirection leads. -/
  | response (status : Nat) (location : Option Text) (body : List UInt8)
  /-- The connection failed, for a reason. -/
  | broken (reason : Text)
deriving DecidableEq, Repr

/-- Why an exchange fails. -/
inductive Error where
  /-- What is to be posted is no object. -/
  | notPostable
  /-- The request cannot be addressed. -/
  | address (error : Url.Error)
  /-- What is to be posted has no JSON text. -/
  | unwritable (error : Json.CanonicalError)
  | broken (reason : Text)
  /-- The request went to a path without a host. -/
  | nowhere
  /-- A redirection does not lead to an address. -/
  | location
  /-- The status does not say success. -/
  | status
  | body (error : Json.BodyError)
  /-- The body is the text of a value that is no object. -/
  | notAnObject (value : Json)
deriving DecidableEq, Repr

/-- The report of the error. -/
def Error.report : Error → Report
  | .notPostable => .silent .noSuchOperation
  | .address e => e.report
  | .unwritable e => e.report
  | .broken reason => .plain .httpConnection (say reason)
  | .nowhere => .silent .value
  | .location => .silent .httpProtocol
  | .status => .silent .httpStatus
  | .body .encoding => .silent .undecodable
  | .body (.text .malformed) => .silent .jsonText
  | .body (.text .tooLong) => .silent .value
  | .body (.text .tooDeep) => .silent .tooDeep
  | .notAnObject v =>
    .plain .value (say ("JSON-RPC response was not an object: " ++ v.kindName))

/-- A request as it is sent. -/
structure Request where
  url : Url
  body : Json
deriving DecidableEq, Repr

variable [Platform]

/-- The request that posts a value to an address. -/
def Request.make (url : Text) (payload : Json) : Except Error Request :=
  match payload with
  | .obj ms =>
    match Url.destination url with
    | .error e => .error (.address e)
    | .ok target =>
      match (Json.obj ms).unwritable? with
      | some e => .error (.unwritable e)
      | none => (target.checkHost.mapError .address).map fun _ => ⟨target, .obj ms⟩
  | _ => .error .notPostable

/-- The statuses that redirect. -/
def redirections : List Nat := [301, 302, 303, 307, 308]

/-- Refuses a redirection that leads nowhere. -/
def checkLocation (location : Text) : Except Error Unit :=
  match Url.parse location with
  | .error _ => .error .location
  | .ok u =>
    if !u.scheme.isEmpty && u.host.isEmpty && u.path.head?.any (· != '/') then
      .error (.address .invalid)
    else u.checkHost.mapError .address

/-- The object that a body holds. -/
def readObject (body : List UInt8) : Except Error Json :=
  match Json.readBody body with
  | .error e => .error (.body e)
  | .ok (.obj ms) => .ok (.obj ms)
  | .ok v => .error (.notAnObject v)

/-- The object that comes back on a request. -/
def Request.receive (r : Request) : Reply → Except Error Json
  | .broken reason => .error (.broken reason)
  | .response status location body => do
    if !r.url.isAbsolute then throw .nowhere
    if redirections.contains status then location.forM checkLocation
    if status < 200 ∨ 300 ≤ status then throw .status
    readObject body

/-- What is sent is what was to be posted. -/
theorem Request.make_body {url : Text} {payload : Json} {r : Request}
    (h : Request.make url payload = .ok r) : r.body = payload := by
  unfold Request.make at h
  split at h <;> try contradiction
  split at h <;> try contradiction
  split at h <;> try contradiction
  rename_i target _ _ _
  cases hh : target.checkHost with
  | error e =>
    rw [hh] at h
    cases h
  | ok _ =>
    rw [hh] at h
    cases h
    rfl

/-- A connection that fails is no answer, whatever was asked. -/
theorem Request.receive_broken (r : Request) (reason : Text) :
    r.receive (.broken reason) = .error (.broken reason) := rfl

end DidRegistry.Http
