import Mathlib
import TreeShell.Command.Files
import TreeShell.Proofs.Pattern.Reading

/-!
# Searching files

`grep` is a filter of lines.  What it prints is chosen line by line, so a text in two parts is
searched part by part.  A pattern without classes and flags does not see letter case, and then the
letter case of the text does not decide which of its lines are chosen.

## Layers

- `lines_append_newline`, `splitOn_map_toLower`: the lines of a text;
- `numberedMatches`: the lines that are chosen, with their numbers;
- `map_isFoundIn_lines`: what a caseless pattern finds in each line;
- `grep_filters`: the command.
-/

namespace TreeShell

open Text

/-! ## Lines -/

/-- Whether two texts are the same but for the case of ASCII letters. -/
def Text.SameButCase (s t : String) : Prop :=
  s.toList.map Char.toLower = t.toList.map Char.toLower

instance (s t : String) : Decidable (Text.SameButCase s t) :=
  inferInstanceAs (Decidable (_ = _))

theorem Text.lines_append_newline (before after : String) :
    lines (before ++ "\n" ++ after) = lines before ++ lines after := by
  have hChars : (before ++ "\n" ++ after).toList = before.toList ++ '\n' :: after.toList := by simp
  simp only [lines, hChars, List.splitOn_eq_splitOnP]
  rw [List.splitOnP_append_cons _ _ (by simp), List.map_append]

/-- A text is cut at the same places when its letters change their case. -/
theorem Text.splitOn_map_toLower {sep : Char} (hSep : Pattern.isLetter sep = false)
    (cs : List Char) :
    (cs.map Char.toLower).splitOn sep = (cs.splitOn sep).map (List.map Char.toLower) := by
  induction cs with
  | nil => simp
  | cons c cs ih =>
    rw [List.map_cons, List.splitOn_cons_eq_if_modifyHead, List.splitOn_cons_eq_if_modifyHead, ih]
    simp only [beq_iff_eq, Pattern.toLower_eq_iff_of_not_letter hSep]
    split
    · rfl
    · cases cs.splitOn sep <;> rfl

namespace Command

/-! ## Lines that are chosen -/

/-- The lines of a text that a pattern is found in, with their numbers. -/
def numberedMatches (p : Pattern) (content : String) : List (String × Nat) :=
  (lines content).zipIdx.filter fun (line, _) => p.isFoundIn line

variable {p : Pattern}

theorem map_fst_numberedMatches (p : Pattern) (content : String) :
    (numberedMatches p content).map Prod.fst = matchingLines p content := by
  have hTest : (fun e : String × Nat => p.isFoundIn e.1) = p.isFoundIn ∘ Prod.fst := rfl
  rw [numberedMatches, hTest, ← List.filter_map, List.zipIdx_map_fst, matchingLines]

/-- The numbers of the lines that are chosen depend on what is found in each line. -/
theorem map_snd_numberedMatches (p : Pattern) (content : String) :
    (numberedMatches p content).map Prod.snd
      = (((lines content).map p.isFoundIn).zipIdx.filter Prod.fst).map Prod.snd := by
  rw [List.zipIdx_map, List.filter_map, List.map_map]
  rfl

theorem matchingLines_append_newline (p : Pattern) (before after : String) :
    matchingLines p (before ++ "\n" ++ after)
      = matchingLines p before ++ matchingLines p after := by
  rw [matchingLines, lines_append_newline, List.filter_append, matchingLines, matchingLines]

/-! ## Letter case -/

theorem map_isFoundIn_lines (hCaseless : Pattern.Caseless p) (content : String) :
    (lines content).map p.isFoundIn
      = ((content.toList.map Char.toLower).splitOn '\n').map (p.isFoundIn ∘ String.ofList) := by
  -- A newline is no letter, so the lines stay what they are but for their letters.
  rw [splitOn_map_toLower (by decide), lines, List.map_map, List.map_map]
  exact List.map_congr_left fun line _ => (hCaseless.isFoundIn_lower line).symm

theorem numbers_eq_of_sameButCase (hCaseless : Pattern.Caseless p) {content content' : String}
    (hSame : SameButCase content content') :
    (numberedMatches p content).map Prod.snd = (numberedMatches p content').map Prod.snd := by
  have hFound : (lines content).map p.isFoundIn = (lines content').map p.isFoundIn := by
    rw [map_isFoundIn_lines hCaseless, map_isFoundIn_lines hCaseless, hSame]
  rw [map_snd_numberedMatches, map_snd_numberedMatches, hFound]

/-! ## The command -/

/-- **Searching**: with a pattern that has no class and sets no flags, `grep` prints the lines of
the file that pass a test on the line alone, in their order.  The two sides of a newline are
searched on their own, and the letter case of the file does not come into the choice. -/
theorem grep_filters {pattern : String} (hRead : Pattern.parse? pattern.toList = some p)
    (hPlain : Pattern.hasClassOrFlags pattern = false) :
    (∀ now file rest fs content, fs.read (fs.resolve file) = .ok content →
      grep.run now (pattern :: file :: rest) fs
        = .still fs (.say ("\n".intercalate (matchingLines p content)))) ∧
    (∀ content, matchingLines p content = (lines content).filter p.isFoundIn ∧
      (matchingLines p content).Sublist (lines content) ∧
      matchingLines p content = (numberedMatches p content).map Prod.fst) ∧
    (∀ before after, matchingLines p (before ++ "\n" ++ after)
      = matchingLines p before ++ matchingLines p after) ∧
    (∀ content content', SameButCase content content' →
      (numberedMatches p content).map Prod.snd = (numberedMatches p content').map Prod.snd) := by
  refine ⟨?_, ?_, matchingLines_append_newline p, ?_⟩
  · intro now file rest fs content hContent
    simp only [grep, hContent, hRead]
  · intro content
    exact ⟨rfl, List.filter_sublist, (map_fst_numberedMatches p content).symm⟩
  · intro content content' hSame
    exact numbers_eq_of_sameButCase (Pattern.parse?_caseless hRead hPlain) hSame

/-- A pattern with letters in the branches of groups, in repetitions and as a code point. -/
def nestedPattern : String := "^(own|b(?:o\\x72)+)|\\bIS\\b"

/-- Whichever case the letters of a file have, the nested pattern is found in the same lines. -/
theorem grep_filters_nested : ∃ p, Pattern.parse? nestedPattern.toList = some p ∧
    Pattern.hasClassOrFlags nestedPattern = false ∧
    (numberedMatches p "Borrowing\nnot bor\nrust is fun").map Prod.snd = [0, 2] ∧
    (numberedMatches p "bORrOWING\nNot Bor\nRUST iS FUN").map Prod.snd = [0, 2] := by
  have hSome : (Pattern.parse? nestedPattern.toList).isSome = true := by cbv
  have hRead := (Option.some_get hSome).symm
  have hPlain : Pattern.hasClassOrFlags nestedPattern = false := by decide +kernel
  have hNumbers : (numberedMatches ((Pattern.parse? nestedPattern.toList).get hSome)
      "Borrowing\nnot bor\nrust is fun").map Prod.snd = [0, 2] := by cbv
  obtain ⟨-, -, -, hCase⟩ := grep_filters hRead hPlain
  have hSame : SameButCase "bORrOWING\nNot Bor\nRUST iS FUN"
      "Borrowing\nnot bor\nrust is fun" := by decide +kernel
  exact ⟨_, hRead, hPlain, hNumbers, (hCase _ _ hSame).trans hNumbers⟩

end Command

end TreeShell
