import DidRegistry.Json.Whole

/-!
# Remote calls

A request has a method, parameters and a number of its own; the response has a result or an error.
An error has a whole code and a message; a response that has neither a result nor an error counts as
an error too.
-/

set_option autoImplicit false

namespace DidRegistry

/-- An error that a ledger reports: a code and a message as it gives them.  Those of a node are a
whole number and a text. -/
structure NodeError where
  code : Json
  message : Json
deriving DecidableEq, Repr

namespace NodeError

/-- The code of errors that a node did not report itself. -/
def internalCode : Int := -32603

/-- An error in what a node answered. -/
def internal (message : Text) : NodeError := ⟨.int internalCode, .str message⟩

/-- The text of an error: its code and its message. -/
def text (e : NodeError) : Text := "[" ++ e.code.text ++ "] " ++ e.message.text

end NodeError

namespace Rpc

/-- A request as it is sent. -/
def request (id : Nat) (method : Json) (params : Json) : Json :=
  .obj [("jsonrpc", .str "2.0"), ("method", method), ("params", params), ("id", .int id)]

/-- Why a response cannot be taken apart. -/
inductive ResponseError where
  /-- It is no object. -/
  | shapeless
  /-- The code of its error is no whole number. -/
  | code (error : WholeError)
deriving DecidableEq, Repr

/-- The report of the error. -/
def ResponseError.report : ResponseError → Report
  | .shapeless => .silent .noSuchOperation
  | .code e => e.report

/-- The error that the members of an error object describe. -/
def errorOf (ms : Json.Members) : Except ResponseError NodeError :=
  match ((ms.get? "code").getD (.int NodeError.internalCode)).toWhole with
  | .error e => .error (.code e)
  | .ok code =>
    .ok ⟨.int code, .str ((ms.get? "message").getD (.str (Text.ofString "unknown error"))).text⟩

/-- The result or the error of a response. -/
def read (response : Json) : Except ResponseError (Except NodeError Json) :=
  match response with
  | .obj _ =>
    match (response.get? "error").getD .null with
    | .null =>
      match response.get? "result" with
      | some v => .ok (.ok v)
      | none => .ok (.error (.internal "response has neither result nor error"))
    | .obj fields => (errorOf fields).map .error
    | v => .ok (.error (.internal v.text))
  | _ => .error .shapeless

end Rpc

end DidRegistry
