/-!
# Failures of tree operations

A failure names its cause, the operation that was asked for and the path it was asked
on, and has one text.
-/

namespace TreeShell.Tree

/-- What an operation was asked to do. -/
inductive Operation where
  | createFile
  | createDirectory
  | delete
  | write
  | openFile
  | readFile
  | list
deriving DecidableEq, Repr

/-- The word for an operation in the text of a failure. -/
def Operation.word : Operation → String
  | .createFile => "touch"
  | .createDirectory => "mkdir"
  | .delete => "rm"
  | .write => "write"
  | .openFile => "open"
  | .readFile => "read"
  | .list => "scandir"

/-- Why an operation was refused. -/
inductive Cause where
  | notFound
  | alreadyExists
  | isDirectory
  | notDirectory
  | protectedPath
  | invalidArgument
  | tooDeep
deriving DecidableEq, Repr

/-- The code and the words for a cause. -/
def Cause.words : Cause → String
  | .notFound => "ENOENT: no such file or directory"
  | .alreadyExists => "EEXIST: file already exists"
  | .isDirectory => "EISDIR: illegal operation on a directory"
  | .notDirectory => "ENOTDIR: not a directory"
  | .protectedPath => "EPERM: operation not permitted on protected path"
  | .invalidArgument => "EINVAL: invalid argument"
  | .tooDeep => "ENAMETOOLONG: path nested too deeply"

/-- A refused operation. -/
structure Failure where
  cause : Cause
  operation : Operation
  path : String
deriving DecidableEq, Repr

/-- The text of a failure. -/
def Failure.message (f : Failure) : String :=
  f.cause.words ++ ", " ++ f.operation.word ++ " '" ++ f.path ++ "'"

end TreeShell.Tree
