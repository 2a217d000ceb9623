import Edm.Service.Business

/-!
# Answers over HTTP: `restplus.py` and `endpoints/restores.py`

flask_restplus answers with what an endpoint returns, and an exception with what
the handler registered for its class returns; a handler that returns nothing is
answered for with `500`. What does not derive from `Exception` passes all
handlers and ends the process.
-/

namespace Edm

open Effects

variable {D : Type}

/-- How a request ends. -/
inductive HttpAnswer where
  | response (code : Nat) (message : Option String)
  | processExit (code : Int)
  deriving DecidableEq

/-- `settings.FLASK_DEBUG` -/
def flaskDebug : Bool := true

def defaultErrorHandler (debug : Bool) : Option (String × Nat) :=
  let message := "An unhandled exception occurred."
  if debug then none else some (message, 500)

def databaseNotFoundErrorHandler : Option (String × Nat) :=
  some ("A database result was required but none was found.", 404)

/-- What a handler returned as an answer. -/
def errorResponse : Option (String × Nat) → HttpAnswer
  | some (message, code) => .response code (some message)
  | none => .response 500 none

def handleError (debug : Bool) : PyExc → HttpAnswer
  | .systemExit code => .processExit code
  | .noResultFound => errorResponse databaseNotFoundErrorHandler
  | _ => errorResponse (defaultErrorHandler debug)

/-- `RestoreCollection.post`, by the status code it returns. -/
def RestoreCollection.post (data : RestoreBody) : Py Nat := do
  createRestore data
  pure 201

/-- Serve a request with an endpoint. -/
def World.respond (ω : Outcomes) (w : World D) (endpoint : Py Nat) : HttpAnswer :=
  match (endpoint.run (World.answer ω) w).1 with
  | .ok code => .response code none
  | .error e => handleError flaskDebug e

end Edm
