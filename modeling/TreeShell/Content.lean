/-!
# Bundled texts

The posts that a new tree is filled with, and the profile that the terminal shows.
-/

namespace TreeShell.Content

/-- A markdown text under its file name. -/
structure Post where
  name : String
  content : String
deriving DecidableEq, Repr

/-- The post that greets a new user. -/
def welcome : Post where
  name := "welcome.md"
  content := String.join
    ["# Welcome\n",
     "\n",
     "This is a terminal you can browse like a small Unix box.\n",
     "\n",
     "- `ls` to see what is here\n",
     "- `cd blog` to move into the posts\n",
     "- `open welcome.md` to read a post\n",
     "\n",
     "Everything you create is kept between sessions.\n"]

/-- The post on layers and seams. -/
def cleanArchitecture : Post where
  name := "clean-architecture.md"
  content := String.join
    ["# Clean Architecture in Practice\n",
     "\n",
     "Most projects do not need a dozen layers. They need a clear answer to one\n",
     "question: which code is allowed to know about which?\n",
     "\n",
     "## Dependencies point inward\n",
     "\n",
     "Keep the core of the application free of framework and storage details.\n",
     "The domain describes what the system does. Adapters describe how it talks\n",
     "to the outside world.\n",
     "\n",
     "```\n",
     "ui  ->  application  ->  domain\n",
     "          ^\n",
     "infrastructure\n",
     "```\n",
     "\n",
     "## Small seams\n",
     "\n",
     "A seam is a trait or interface at the edge of the core. The file system in\n",
     "this terminal is one: commands call it, and the storage behind it can be\n",
     "swapped without touching a single command.\n",
     "\n",
     "## When to stop\n",
     "\n",
     "If a layer only forwards calls, remove it. Structure should make change\n",
     "cheaper, not add ceremony.\n"]

/-- The post on typed code. -/
def typescriptTips : Post where
  name := "typescript-tips.md"
  content := String.join
    ["# TypeScript Tips\n",
     "\n",
     "A few habits that keep a typed codebase pleasant.\n",
     "\n",
     "## Prefer unions to flags\n",
     "\n",
     "```ts\n",
     "type Node =\n",
     "  | \x7b type: 'file'; content: string \x7d\n",
     "  | \x7b type: 'directory'; children: Record<string, Node> \x7d;\n",
     "```\n",
     "\n",
     "The compiler narrows on `type`, so each branch only sees the fields that\n",
     "exist.\n",
     "\n",
     "## Let inference work\n",
     "\n",
     "Annotate function boundaries and exported values. Inside a function, let\n",
     "the compiler infer local types.\n",
     "\n",
     "## Use `unknown` at the edges\n",
     "\n",
     "Parsed JSON is `unknown` until it has been checked. Validate once where the\n",
     "data enters, then pass the typed value around.\n",
     "\n",
     "## Make impossible states unrepresentable\n",
     "\n",
     "If two booleans can never both be true, they are one enum.\n"]

/-- The bundled posts in the order they are put into a tree. -/
def posts : List Post :=
  [welcome, cleanArchitecture, typescriptTips]

/-- The profile. -/
def profile : String :=
  String.join
    ["# whoami\n",
     "\n",
     "Developer who likes small tools, plain text and terminals.\n",
     "\n",
     "Type `help` to see what this shell can do.\n"]

end TreeShell.Content
