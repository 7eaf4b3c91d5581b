import TreeShell.Seed
import TreeShell.Shell

/-!
# Scripts

A script is a list of actions on a shell, each at an instant of its own.  An action runs a
line, uses the file system below the commands, or changes what is around it: the store
begins or ceases to fail, a text is put into it from outside, or the file system is opened
anew from it.
-/

namespace TreeShell

open TreeShell.Command TreeShell.Content TreeShell.Time TreeShell.Tree

/-! ## Actions and answers -/

/-- What can happen to a shell. -/
inductive Action where
  /-- A line is run. -/
  | handle (line : String)
  /-- A line is run and recorded. -/
  | submit (line : String)
  | setCurrentPath (path : String)
  | createFile (path content : String)
  | createDirectory (path : String)
  | delete (path : String)
  | write (path content : String)
  | read (path : String)
  | list (path : String)
  | seed (posts : List Post)
  | reset
  /-- The file system is opened anew from its store under a key. -/
  | reopen (key : String)
  /-- From now on reading fails or works, and the writes with some numbers fail. -/
  | faults (reads : Bool) (writes : Nat → Bool)
  /-- A text is put into the store from outside. -/
  | put (key text : String)

/-- What an action answers. -/
inductive Answer where
  | nothing
  | done
  | refusal (failure : Failure)
  | result (result : Result)
  | content (text : String)
  | listing (nodes : List Node)
  | count (number : Nat)

namespace Shell

/-! ## Running scripts -/

/-- A shell with another file system. -/
def withFs (sh : Shell) (fs : FileSystem) : Shell := { sh with fs }

/-- The answer to a change of the file system, which a refusal leaves as it is. -/
def change (sh : Shell) : Except Failure FileSystem → Answer × Shell
  | .ok fs => (.done, sh.withFs fs)
  | .error f => (.refusal f, sh)

/-- The answer to a question about the file system. -/
def ask {α : Type} (sh : Shell) (answer : α → Answer) : Except Failure α → Answer × Shell
  | .ok a => (answer a, sh)
  | .error f => (.refusal f, sh)

/-- Does an action. -/
def act (sh : Shell) (now : Instant) : Action → Answer × Shell
  | .handle line =>
    let (r, sh) := sh.handle now line
    (.result r, sh)
  | .submit line =>
    match sh.submit now line with
    | (some r, sh) => (.result r, sh)
    | (none, sh) => (.nothing, sh)
  | .setCurrentPath path => (.nothing, sh.withFs (sh.fs.setCurrentPath path))
  | .createFile path content => sh.change (sh.fs.createFile now path content)
  | .createDirectory path => sh.change (sh.fs.createDirectory now path)
  | .delete path => sh.change (sh.fs.delete now path)
  | .write path content => sh.change (sh.fs.write now path content)
  | .read path => sh.ask .content (sh.fs.read path)
  | .list path => sh.ask .listing (sh.fs.list path)
  | .seed posts =>
    let (n, fs) := sh.fs.seed now posts
    (.count n, sh.withFs fs)
  | .reset => (.nothing, sh.withFs (sh.fs.reset now))
  | .reopen key => (.nothing, sh.withFs (sh.fs.reopen key now))
  | .faults reads writes => (.nothing, sh.withFs (sh.fs.withFaults reads writes))
  | .put key text => (.done, sh.withFs (sh.fs.plant key text))

/-- Does the actions of a script in order. -/
def play (sh : Shell) : List (Instant × Action) → List Answer × Shell
  | [] => ([], sh)
  | (now, action) :: rest =>
    let (answer, after) := sh.act now action
    let (answers, last) := play after rest
    (answer :: answers, last)

end Shell

end TreeShell
