/-!
# Faults of a database

What can go wrong between a database and those who ask it.  A fault is told in the words of the
database, which are not those of this library: whoever hands over a database says what its words
are.
-/

namespace Barometer.Store

/-- What a database has to complain of. -/
inductive Cause where
  /-- There is no file at a path, and none can be made there. -/
  | absent
  /-- A file holds something else than a database. -/
  | foreign
  /-- A statement is not well formed, or names what the database does not have. -/
  | rejected
  /-- A sum of integers has more than 64 bits. -/
  | overflow
  /-- The register of imports is not as it should be. -/
  | register
deriving DecidableEq, Repr

/-- What has failed, and the text with which the database tells why. -/
inductive Fault where
  /-- The database at a path was not opened. -/
  | unopened (path text : String)
  /-- A function that statements call was not taken over. -/
  | unregistered (function text : String)
  /-- What there is could not be looked up. -/
  | unseen (text : String)
  /-- A statement was refused, or came to nothing on the way. -/
  | failed (statement text : String)
deriving DecidableEq, Repr

namespace Fault

/-- The words of the database. -/
def text : Fault → String
  | .unopened _ text => text
  | .unregistered _ text => text
  | .unseen text => text
  | .failed _ text => text

/-- What has failed, without the words of the database. -/
def subject : Fault → String
  | .unopened path _ => "failed to open database '" ++ path ++ "'"
  | .unregistered function _ => "failed to register SQL function '" ++ function ++ "'"
  | .unseen _ => "schema introspection failed"
  | .failed _ _ => "query failed"

def message (fault : Fault) : String := fault.subject ++ ": " ++ fault.text

end Fault

end Barometer.Store
