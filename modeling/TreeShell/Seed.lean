import TreeShell.Content
import TreeShell.FileSystem

/-!
# Seeding

Seeding puts posts into the protected directory, each of them where nothing has its name
yet.  Without that directory nothing is done.
-/

namespace TreeShell

open TreeShell.Content TreeShell.Log TreeShell.Time TreeShell.Tree

namespace FileSystem

/-- The path of the protected directory. -/
def blogPath : String := "/" ++ protectedName

/-- The path of a post. -/
def postPath (post : Post) : String := blogPath ++ "/" ++ post.name

/-- Puts a post into the tree, unless its name is taken or the file cannot be made, and
counts it. -/
def addPost (now : Instant) (progress : Nat × FileSystem) (post : Post) : Nat × FileSystem :=
  let (count, fs) := progress
  if (fs.node? (postPath post)).isSome then (count, fs)
  else
    match fs.createFile now (postPath post) post.content with
    | .ok fs => (count + 1, fs)
    | .error _ => (count, fs)

/-- Puts posts into the tree and answers how many were new. -/
def seed (fs : FileSystem) (now : Instant) (posts : List Post) : Nat × FileSystem :=
  if (fs.node? blogPath).any Node.isDirectory then posts.foldl (addPost now) (0, fs)
  else (0, fs)

/-! ## What is told -/

/-- What is told of a post. -/
def addPostEvents (now : Instant) (fs : FileSystem) (post : Post) : List Event :=
  if (fs.node? (postPath post)).isSome then []
  else
    fs.changeEvents (.created .createFile (postPath post))
      (fs.createFile now (postPath post) post.content)

/-- What is told of posts, one after the other. -/
def addPostsEvents (now : Instant) (progress : Nat × FileSystem) : List Post → List Event
  | [] => []
  | post :: posts =>
    addPostEvents now progress.2 post ++ addPostsEvents now (addPost now progress post) posts

/-- What is told of the seeding: of each post, and at the end how many were new. -/
def seedEvents (fs : FileSystem) (now : Instant) (posts : List Post) : List Event :=
  if (fs.node? blogPath).any Node.isDirectory then
    let count := (fs.seed now posts).1
    addPostsEvents now (0, fs) posts ++ if count = 0 then [] else [.seeded count]
  else [.unseeded]

end FileSystem

end TreeShell
