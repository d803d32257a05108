import AwalaEndpoint.Collaborators

namespace AwalaEndpoint

/-!
# HTTP replies

The status codes of the two servers and the replies of their routes.  A handler
that rejects sends no reply of its own: the server framework then answers with
an internal server error.
-/

namespace HttpStatusCodes

def ok : Nat := 200
def accepted : Nat := 202
def noContent : Nat := 204
def badRequest : Nat := 400
def forbidden : Nat := 403
def notFound : Nat := 404
def methodNotAllowed : Nat := 405
def internalServerError : Nat := 500
def badGateway : Nat := 502
def serviceUnavailable : Nat := 503

end HttpStatusCodes

/-- The reply of a handler, with the lines it logged on the way. -/
structure Reply where
  code : Nat
  message : Option String
  logs : List LogEntry
  deriving Repr, DecidableEq

/-- The status code a client sees. -/
def statusOf : Except Failure Reply → Nat
  | .ok reply => reply.code
  | .error _ => HttpStatusCodes.internalServerError

@[simp] theorem statusOf_ok
    (reply : Reply) :
    statusOf (.ok reply) = reply.code :=
  rfl

@[simp] theorem statusOf_error
    (failure : Failure) :
    statusOf (.error failure) = 500 :=
  rfl

end AwalaEndpoint
