import TreeShell.Text.Blank

/-!
# Redirections

A text redirects when it is some content, the sign `>` and the name of a file.  The sign
is the first `>` that has content before it; later ones belong to the name.  Content and
name are trimmed.  The blanks around the sign are those of ASCII.

Content and name hold no newline, apart from blanks next to the sign.
-/

namespace TreeShell.Command

open TreeShell.Text

/-- A content and the name of the file to put it in. -/
structure Redirect where
  content : String
  file : String
deriving DecidableEq, Repr

namespace Redirect

/-- Whether a character is an ASCII blank. -/
def isSpace (c : Char) : Bool :=
  c = ' ' || ('\t' ≤ c && c ≤ '\r')

/-- The name after the sign: all from the first character that is no blank, or the last
blank when there is nothing else. -/
def name? (afterSign : List Char) : Option (List Char) :=
  match afterSign.dropWhile isSpace with
  | [] => afterSign.getLast?.bind fun c => if c = '\n' then none else some [c]
  | name => if '\n' ∈ name then none else some name

/-- The name when the sign stands in front, after any blanks. -/
def nameAfterSign? (cs : List Char) : Option (List Char) :=
  match cs.dropWhile isSpace with
  | '>' :: r => name? r
  | _ => none

/-- The content and the name in a text, given the content so far from its end. -/
def splitFrom (before : List Char) : List Char → Option (List Char × List Char)
  | [] => none
  | c :: cs =>
    if c = '\n' then none
    else
      match nameAfterSign? cs with
      | some name => some ((c :: before).reverse, name)
      | none => splitFrom (c :: before) cs

/-- The redirection that a text is, if it is one. -/
def parse? (text : String) : Option Redirect :=
  (splitFrom [] text.toList).map fun (content, name) =>
    ⟨String.ofList (trim content), String.ofList (trim name)⟩

end Redirect

end TreeShell.Command
