import NetNode.Os.Errno

/-!
# I/O failures

A failure is a raw error number, a bare kind, or a kind with a message of its own. Its text is
the number's text followed by `(os error N)`, the kind's description, or the message.
-/

namespace NetNode.Os

/-- An I/O failure. -/
inductive IoError where
  | os (code : Int)
  | simple (kind : ErrorKind)
  | custom (kind : ErrorKind) (message : String)
  deriving DecidableEq, Inhabited, Repr

/-- The kind of a failure. -/
def IoError.kind : IoError → ErrorKind
  | .os code => kindOfErrno code
  | .simple k => k
  | .custom k _ => k

/-- The error number of a failure, when it came from the system. -/
def IoError.rawOs? : IoError → Option Int
  | .os code => some code
  | _ => none

/-- The text of a failure. -/
def IoError.message : IoError → String
  | .os code => s!"{errnoText code} (os error {code})"
  | .simple k => k.description
  | .custom _ m => m

end NetNode.Os
