import Mathlib.Tactic.Common
import TreeShell.Proofs.Pattern.LetterCase

/-!
# What caseless mode reaches

Patterns are read in caseless mode, and the mode reaches every letter that is spelled by itself or
by its code point, in every branch and at every depth, as long as no group sets flags.  A bracketed
class is another matter, as only a part of its letters may get their other case.  So a text without
both is read as a caseless pattern, if it is one at all.

## Layers

- `hasClassOrFlags`: the texts that have a class or set flags, sign by sign;
- `Passes`: what may be passed over without meeting either;
- `passes_hexFixed` to `passes_counts?`: the parts of a sign that are passed over;
- `escape?_caseless`, `group?_caseless`, `sign?_caseless`: one sign;
- `signs?_caseless`, `parse?_caseless`: whole texts.
-/

namespace TreeShell.Pattern

open TreeShell.Text

/-! ## Classes and flags in a text -/

/-- Whether the rest of a pattern has a bracketed class or a group that sets flags, read from
inside the name of a group or from outside.  A backslash takes the character behind it with it, and
a name ends at an angle bracket. -/
def meetsClassOrFlags : Bool → List Char → Bool
  | _, [] => false
  | true, c :: cs => meetsClassOrFlags (c ≠ '>') cs
  | false, '\\' :: _ :: cs => meetsClassOrFlags false cs
  | false, '[' :: _ => true
  | false, '(' :: '?' :: ':' :: cs => meetsClassOrFlags false cs
  | false, '(' :: '?' :: '<' :: cs => meetsClassOrFlags true cs
  | false, '(' :: '?' :: 'P' :: '<' :: cs => meetsClassOrFlags true cs
  | false, '(' :: '?' :: _ => true
  | false, _ :: cs => meetsClassOrFlags false cs

/-- Whether a text, read as a pattern, has a bracketed class or a group that sets flags. -/
def hasClassOrFlags (pattern : String) : Bool :=
  meetsClassOrFlags false pattern.toList

/-- Whether a character begins neither an escape nor a class nor a group. -/
def IsOrdinary (c : Char) : Prop :=
  c ≠ '\\' ∧ c ≠ '[' ∧ c ≠ '('

instance : DecidablePred IsOrdinary := fun _ => inferInstanceAs (Decidable (_ ∧ _))

/-- What a test accepts is ordinary when it refuses the three signs. -/
theorem isOrdinary_of (test : Char → Bool) (hEscape : test '\\' = false)
    (hClass : test '[' = false) (hGroup : test '(' = false) {c : Char} (h : test c = true) :
    IsOrdinary c := by
  have hNe {d : Char} (hNone : test d = false) : c ≠ d := by
    rintro rfl
    exact Bool.false_ne_true (hNone.symm.trans h)
  exact ⟨hNe hEscape, hNe hClass, hNe hGroup⟩

theorem meetsClassOrFlags_ordinary {c : Char} (h : IsOrdinary c) (cs : List Char) :
    meetsClassOrFlags false (c :: cs) = meetsClassOrFlags false cs := by
  obtain ⟨hEscape, hClass, hGroup⟩ := h
  simp [meetsClassOrFlags, hEscape, hGroup]

theorem meetsClassOrFlags_capture {cs : List Char} (h : cs.head? ≠ some '?') :
    meetsClassOrFlags false ('(' :: cs) = meetsClassOrFlags false cs := by
  cases cs with
  | nil => rfl
  | cons c cs =>
    have hNe : c ≠ '?' := by simpa using h
    simp [meetsClassOrFlags, hNe]

theorem meetsClassOrFlags_name {cs rest : List Char} {c : Char}
    (h : cs.dropWhile (· ≠ '>') = c :: rest) :
    meetsClassOrFlags true cs = meetsClassOrFlags false rest := by
  induction cs with
  | nil => simp at h
  | cons d cs ih =>
    rw [List.dropWhile_cons] at h
    split at h
    · rename_i hInside
      rw [meetsClassOrFlags, hInside, ih h]
    · rename_i hEnd
      rw [meetsClassOrFlags, Bool.eq_false_iff.2 hEnd, (List.cons.inj h).2]

/-- Where neither flags are set nor a name is given, the question mark of a group has a colon
behind it. -/
theorem exists_colon {cs : List Char} (h : meetsClassOrFlags false ('(' :: '?' :: cs) = false)
    (hNamed : ∀ r, cs ≠ '<' :: r) (hNamedP : ∀ r, cs ≠ 'P' :: '<' :: r) :
    ∃ r, cs = ':' :: r ∧ meetsClassOrFlags false r = false := by
  unfold meetsClassOrFlags at h
  split at h <;> grind

/-! ## What is passed over -/

/-- Whether a text goes on with another one behind ordinary characters. -/
inductive Passes : List Char → List Char → Prop where
  | refl (cs : List Char) : Passes cs cs
  | cons {c : Char} {cs rest : List Char} (hOrdinary : IsOrdinary c) (hRest : Passes cs rest) :
      Passes (c :: cs) rest

theorem Passes.trans {cs mid rest : List Char} (h : Passes cs mid) (h' : Passes mid rest) :
    Passes cs rest := by
  induction h with
  | refl => exact h'
  | cons hOrdinary _ ih => exact .cons hOrdinary (ih h')

theorem Passes.meetsClassOrFlags_eq {cs rest : List Char} (h : Passes cs rest) :
    meetsClassOrFlags false cs = meetsClassOrFlags false rest := by
  induction h with
  | refl => rfl
  | cons hOrdinary _ ih => rw [meetsClassOrFlags_ordinary hOrdinary, ih]

/-- The flags of a pattern in which no group sets any. -/
abbrev Flags.caselessOnly : Flags := { caseless := true }

theorem isOrdinary_of_hexValue? {c : Char} {n : Nat} (h : Json.hexValue? c = some n) :
    IsOrdinary c :=
  isOrdinary_of (fun c => (Json.hexValue? c).isSome) rfl rfl rfl (Option.isSome_of_eq_some h)

variable {cs rest : List Char}

theorem passes_hexFixed {count value n : Nat}
    (h : hexFixed .caselessOnly count value cs = some (n, rest)) : Passes cs rest := by
  induction count generalizing value cs with
  | zero =>
    obtain ⟨-, rfl⟩ : value = n ∧ cs = rest := by simpa [hexFixed] using h
    exact .refl cs
  | succ count ih =>
    cases cs with
    | nil => simp [hexFixed] at h
    | cons c cs =>
      obtain ⟨digit, hDigit, hRest⟩ := Option.bind_eq_some_iff.1 h
      exact .cons (isOrdinary_of_hexValue? hDigit) (ih hRest)

theorem passes_hexBraced {fuel n : Nat} {value : Option Nat}
    (h : hexBraced .caselessOnly fuel value cs = some (n, rest)) : Passes cs rest := by
  induction fuel generalizing value cs with
  | zero => simp [hexBraced] at h
  | succ fuel ih =>
    cases cs with
    | nil => simp [hexBraced] at h
    | cons c cs =>
      rw [hexBraced] at h
      split at h
      · rename_i hBrace
        obtain ⟨_, -, hSame⟩ := Option.map_eq_some_iff.1 h
        obtain rfl : cs = rest := congrArg Prod.snd hSame
        exact .cons (hBrace ▸ by decide) (.refl cs)
      · obtain ⟨digit, hDigit, hRest⟩ := Option.bind_eq_some_iff.1 h
        exact .cons (isOrdinary_of_hexValue? hDigit) (ih hRest)

theorem passes_codePoint? {digits : Nat} {c : Char}
    (h : codePoint? .caselessOnly digits cs = some (c, rest)) : Passes cs rest := by
  have hRead {n : Nat} {r : List Char}
      (hChar : (charOf? n).bind (fun d => some (d, r)) = some (c, rest)) : r = rest := by
    obtain ⟨d, -, hSame⟩ := Option.bind_eq_some_iff.1 hChar
    exact congrArg Prod.snd (Option.some.inj hSame)
  unfold codePoint? at h
  dsimp only at h
  split at h
  · rename_i r hBrace
    obtain rfl : cs = '\x7b' :: r := hBrace
    obtain ⟨⟨n, r'⟩, hDigits, hChar⟩ := Option.bind_eq_some_iff.1 h
    exact .cons (by decide) (hRead hChar ▸ passes_hexBraced hDigits)
  · obtain ⟨⟨n, r'⟩, hDigits, hChar⟩ := Option.bind_eq_some_iff.1 h
    exact hRead hChar ▸ passes_hexFixed hDigits

theorem passes_dropWhile {p : Char → Bool} (h : ∀ c, p c = true → IsOrdinary c) (cs : List Char) :
    Passes cs (cs.dropWhile p) := by
  induction cs with
  | nil => exact .refl []
  | cons c cs ih =>
    rw [List.dropWhile_cons]
    split
    · exact .cons (h c ‹_›) ih
    · exact .refl _

theorem isOrdinary_of_isBlank {c : Char} (h : isBlank c = true) : IsOrdinary c :=
  isOrdinary_of isBlank rfl rfl rfl h

theorem isOrdinary_of_isName {c : Char} (h : isLetter c = true ∨ c = '-') : IsOrdinary c :=
  isOrdinary_of (fun c => isLetter c || c = '-') rfl rfl rfl (by simpa using h)

theorem isOrdinary_of_isDigit {c : Char} (h : c.isDigit = true) : IsOrdinary c :=
  isOrdinary_of Char.isDigit rfl rfl rfl h

/-- Where a reader takes ordinary characters one by one, all that it takes is passed over. -/
theorem passes_of_takes {read : Nat → List Char → List Char × List Char}
    (hZero : ∀ cs, (read 0 cs).2 = cs) (hNil : ∀ n, (read (n + 1) []).2 = [])
    (hCons : ∀ n c cs, (IsOrdinary c ∧ (read (n + 1) (c :: cs)).2 = (read n cs).2) ∨
      (read (n + 1) (c :: cs)).2 = c :: cs) (fuel : Nat) (cs : List Char) :
    Passes cs (read fuel cs).2 := by
  induction fuel generalizing cs with
  | zero =>
    rw [hZero]
    exact .refl cs
  | succ fuel ih =>
    cases cs with
    | nil =>
      rw [hNil]
      exact .refl []
    | cons c cs =>
      rcases hCons fuel c cs with ⟨hOrdinary, hTaken⟩ | hLeft
      · rw [hTaken]
        exact .cons hOrdinary (ih cs)
      · rw [hLeft]
        exact .refl (c :: cs)

theorem passes_edgeName {fuel : Nat} {name : List Char}
    (h : edgeName .caselessOnly fuel cs = (name, rest)) : Passes cs rest := by
  obtain rfl : (edgeName .caselessOnly fuel cs).2 = rest := congrArg Prod.snd h
  refine passes_of_takes (fun _ => rfl) (fun _ => rfl) (fun n c cs => ?_) fuel cs
  rw [edgeName]
  split
  · rename_i hName
    exact .inl ⟨isOrdinary_of_isName hName, rfl⟩
  · exact .inr rfl

theorem passes_edge? {l : Look} (h : edge? .caselessOnly cs = some (l, rest)) :
    Passes cs rest := by
  unfold edge? at h
  split at h
  · rename_i inside
    split at h
    · contradiction
    · rename_i c r hFirst
      obtain rfl : inside = c :: r := hFirst
      split at h
      · split at h
        · rename_i name closed hName
          obtain ⟨_, -, hSame⟩ := Option.map_eq_some_iff.1 h
          obtain rfl : closed = rest := congrArg Prod.snd hSame
          have hClose : Passes ('\x7d' :: closed) closed := .cons (by decide) (.refl closed)
          exact .cons (by decide) ((passes_edgeName hName).trans hClose)
        · contradiction
      · obtain rfl : '\x7b' :: c :: r = rest := congrArg Prod.snd (Option.some.inj h)
        exact .refl _
  · obtain rfl : cs = rest := congrArg Prod.snd (Option.some.inj h)
    exact .refl cs

theorem passes_countDigits {fuel : Nat} {ds : List Char}
    (h : countDigits .caselessOnly fuel cs = (ds, rest)) : Passes cs rest := by
  obtain rfl : (countDigits .caselessOnly fuel cs).2 = rest := congrArg Prod.snd h
  refine passes_of_takes (fun _ => rfl) (fun _ => rfl) (fun n c cs => ?_) fuel cs
  rw [countDigits]
  split
  · rename_i hDigit
    exact .inl ⟨isOrdinary_of_isDigit hDigit, rfl⟩
  · exact .inr rfl

theorem passes_count? {n : Nat} (h : count? .caselessOnly cs = some (n, rest)) :
    Passes cs rest := by
  have hBlanks (cs : List Char) : Passes cs (cs.dropWhile isBlank) :=
    passes_dropWhile (fun _ => isOrdinary_of_isBlank) cs
  unfold count? at h
  split at h
  · contradiction
  · rename_i ds r _ hDigits
    dsimp only at h
    split at h
    · obtain rfl : r.dropWhile isBlank = rest := congrArg Prod.snd (Option.some.inj h)
      exact (hBlanks cs).trans ((passes_countDigits hDigits).trans (hBlanks r))
    · contradiction

theorem passes_counts? {least : Nat} {most : Option Nat}
    (h : counts? .caselessOnly cs = some (least, most, rest)) : Passes cs rest := by
  unfold counts? at h
  obtain ⟨⟨n, r⟩, hLeast, h⟩ := Option.bind_eq_some_iff.1 h
  refine (passes_count? hLeast).trans ?_
  have hClose (r : List Char) : Passes ('\x7d' :: r) r := .cons (by decide) (.refl r)
  have hComma (r : List Char) : Passes (',' :: r) r := .cons (by decide) (.refl r)
  dsimp only at h
  split at h
  · -- One count.
    rename_i r'
    obtain rfl : r' = rest := by simpa using congrArg (·.map (·.2.2)) h
    exact hClose r'
  · rename_i r'
    refine (hComma r').trans ?_
    split at h
    · -- A count from which on there is no limit.
      rename_i r'' hEnd
      obtain rfl : r' = '\x7d' :: r'' := hEnd
      obtain rfl : r'' = rest := by simpa using congrArg (·.map (·.2.2)) h
      exact hClose r''
    · -- Two counts.
      obtain ⟨⟨m, r''⟩, hMost, h⟩ := Option.bind_eq_some_iff.1 h
      refine (passes_count? hMost).trans ?_
      split at h
      · rename_i r₃ hEnd
        obtain rfl : r'' = '\x7d' :: r₃ := congrArg Prod.snd hEnd
        split at h
        · contradiction
        · obtain rfl : r₃ = rest := by simpa using congrArg (·.map (·.2.2)) h
          exact hClose r₃
      · contradiction
  · contradiction

theorem passes_dropReluctant (cs : List Char) : Passes cs (dropReluctant cs) := by
  unfold dropReluctant
  split
  · exact .cons (by decide) (.refl _)
  · exact .refl cs

/-! ## Caseless parts -/

theorem caseless_ofParts {parts : List Pattern} (h : ∀ p ∈ parts, Caseless p) :
    Caseless (ofParts parts) := by
  unfold ofParts
  split
  · exact .empty
  · exact h _ List.mem_cons_self
  · exact .sequence h

theorem caseless_ofBranches {branches : List Pattern} (h : ∀ p ∈ branches, Caseless p) :
    Caseless (ofBranches branches) := by
  unfold ofBranches
  split
  · exact h _ List.mem_cons_self
  · exact .choice h

theorem caseless_ofCount {body : Pattern} (h : Caseless body) (least : Nat) (most : Option Nat) :
    Caseless (ofCount least most body) := by
  unfold ofCount
  split
  · exact .empty
  · split
    · exact h
    · exact .repeated least most h

theorem caseless_captured (capture : Option Capture) {body : Pattern} (h : Caseless body) :
    Caseless (match capture with
      | some c => .group c body
      | none => body) := by
  cases capture with
  | some c => exact .group c h
  | none => exact h

/-- A character that stands for itself stands for both its cases. -/
theorem caseless_letter (c : Char) : Caseless (Flags.caselessOnly.letter c).toPattern := by
  unfold Flags.letter
  split
  · rename_i hLetter
    exact .chars (ignoresCase_foldCase_single hLetter.2)
  · rename_i hOther
    exact .char (Bool.eq_false_iff.2 fun hLetter => hOther ⟨rfl, hLetter⟩)

/-- The classes that a letter stands for have each letter in both cases. -/
theorem ignoresCase_classOf? {c : Char} {s : CharSet} (h : classOf? c = some s) :
    s.IgnoresCase := by
  have hAll : ∀ s ∈ [CharSet.digit, CharSet.digit.complement, .space, CharSet.space.complement,
      .word, CharSet.word.complement], ∀ k < 26,
      inRanges s.ranges (0x61 + k) = inRanges s.ranges (0x41 + k) := by decide
  apply CharSet.ignoresCase_of_letters
  apply hAll
  unfold classOf? at h
  split at h <;> cases h <;> simp

theorem isLetter_of_control? {c d : Char} (h : control? c = some d) : isLetter d = false := by
  unfold control? at h
  split at h <;> cases h <;> decide

/-- **Escapes** stand for caseless patterns. -/
theorem escape?_caseless {i : Item} (h : escape? .caselessOnly cs = some (i, rest)) :
    Caseless i.toPattern ∧
      meetsClassOrFlags false ('\\' :: cs) = meetsClassOrFlags false rest := by
  have hCode {digits : Nat} {r : List Char}
      (h : (codePoint? .caselessOnly digits r).map
        (fun read => (Flags.caselessOnly.letter read.1, read.2)) = some (i, rest)) :
      Caseless i.toPattern ∧ meetsClassOrFlags false r = meetsClassOrFlags false rest := by
    obtain ⟨⟨c, r'⟩, hPoint, hSame⟩ := Option.map_eq_some_iff.1 h
    obtain ⟨rfl, rfl⟩ := Prod.mk.inj hSame
    exact ⟨caseless_letter c, (passes_codePoint? hPoint).meetsClassOrFlags_eq⟩
  have hLook {l : Look} {r : List Char} (h : some (Item.look l, r) = some (i, rest)) :
      Caseless i.toPattern ∧ meetsClassOrFlags false r = meetsClassOrFlags false rest := by
    obtain ⟨rfl, rfl⟩ := Prod.mk.inj (Option.some.inj h)
    exact ⟨.look l, rfl⟩
  unfold escape? at h
  split at h
  · contradiction
  · exact (hCode h :)
  · exact (hCode h :)
  · exact (hCode h :)
  · exact (hLook h :)
  · exact (hLook h :)
  · obtain ⟨⟨l, r⟩, hEdge, hSame⟩ := Option.map_eq_some_iff.1 h
    obtain ⟨rfl, rfl⟩ := Prod.mk.inj hSame
    exact ⟨.look l, (passes_edge? hEdge).meetsClassOrFlags_eq⟩
  · exact (hLook h :)
  · exact (hLook h :)
  · exact (hLook h :)
  · -- A mark stands for itself, and any other letter for a class or a control character.
    rename_i c r _ _ _ _ _ _ _ _ _
    split at h
    · obtain ⟨rfl, rfl⟩ := Prod.mk.inj (Option.some.inj h)
      exact ⟨caseless_letter c, rfl⟩
    · split at h
      · rename_i s hClass
        obtain ⟨rfl, rfl⟩ := Prod.mk.inj (Option.some.inj h)
        exact ⟨.chars (ignoresCase_classOf? hClass), rfl⟩
      · obtain ⟨d, hControl, hSame⟩ := Option.map_eq_some_iff.1 h
        obtain ⟨rfl, rfl⟩ := Prod.mk.inj hSame
        exact ⟨.char (isLetter_of_control? hControl), rfl⟩

/-! ## The reader's state -/

/-- Whether a group was opened in caseless mode after caseless parts. -/
structure Frame.IsCaseless (f : Frame) : Prop where
  flags : f.flags = .caselessOnly
  branches : ∀ p ∈ f.branches, Caseless p
  parts : ∀ p ∈ f.parts, Caseless p

/-- Whether only caseless parts have been read, and no flags set. -/
structure Progress.IsCaseless (p : Progress) : Prop where
  flags : p.flags = .caselessOnly
  branches : ∀ q ∈ p.branches, Caseless q
  parts : ∀ q ∈ p.parts, Caseless q
  frames : ∀ f ∈ p.frames, f.IsCaseless

namespace Progress.IsCaseless

variable {p q : Progress}

theorem last (h : p.IsCaseless) : Caseless (ofParts p.parts.reverse) :=
  caseless_ofParts fun part hMem => h.parts part (List.mem_reverse.1 hMem)

theorem body (h : p.IsCaseless) : Caseless p.body := by
  apply caseless_ofBranches
  intro branch hMem
  rw [List.mem_reverse] at hMem
  exact List.forall_mem_cons.2 ⟨h.last, h.branches⟩ branch hMem

theorem push (h : p.IsCaseless) {part : Pattern} (hPart : Caseless part) :
    (p.push part).IsCaseless :=
  ⟨h.flags, h.branches, List.forall_mem_cons.2 ⟨hPart, h.parts⟩, h.frames⟩

theorem branch (h : p.IsCaseless) : p.branch.IsCaseless :=
  ⟨h.flags, List.forall_mem_cons.2 ⟨h.last, h.branches⟩, List.forall_mem_nil _, h.frames⟩

theorem openGroup? (h : p.IsCaseless) {capture : Option Capture} {flags : Flags}
    (hFlags : flags = .caselessOnly) (hOpen : p.openGroup? capture flags = some q) :
    q.IsCaseless := by
  unfold Progress.openGroup? at hOpen
  split at hOpen
  · obtain rfl := Option.some.inj hOpen
    exact ⟨hFlags, List.forall_mem_nil _, List.forall_mem_nil _,
      List.forall_mem_cons.2 ⟨⟨h.flags, h.branches, h.parts⟩, h.frames⟩⟩
  · contradiction

theorem openCapture? (h : p.IsCaseless) {name : Option String}
    (hOpen : p.openCapture? name = some q) : q.IsCaseless := by
  have hCounted : { p with groups := p.groups + 1 }.IsCaseless :=
    ⟨h.flags, h.branches, h.parts, h.frames⟩
  exact hCounted.openGroup? h.flags hOpen

theorem closeGroup? (h : p.IsCaseless) (hClose : p.closeGroup? = some q) : q.IsCaseless := by
  unfold Progress.closeGroup? at hClose
  split at hClose
  · contradiction
  · rename_i f fs hFrames
    obtain ⟨hFrame, hRest⟩ := List.forall_mem_cons.1 (hFrames ▸ h.frames)
    obtain rfl := Option.some.inj hClose
    exact ⟨hFrame.flags, hFrame.branches,
      List.forall_mem_cons.2 ⟨caseless_captured f.capture h.body, hFrame.parts⟩, hRest⟩

theorem repeat? (h : p.IsCaseless) {least : Nat} {most : Option Nat}
    (hRepeat : p.repeat? least most = some q) : q.IsCaseless := by
  unfold Progress.repeat? at hRepeat
  split at hRepeat
  · contradiction
  · rename_i part parts hParts
    obtain ⟨hPart, hRest⟩ := List.forall_mem_cons.1 (hParts ▸ h.parts)
    obtain rfl := Option.some.inj hRepeat
    exact ⟨h.flags, h.branches,
      List.forall_mem_cons.2 ⟨caseless_ofCount hPart least most, hRest⟩, h.frames⟩

end Progress.IsCaseless

/-! ## One sign -/

variable {p q : Progress}

theorem namedGroup?_caseless (hp : p.IsCaseless) (h : namedGroup? p cs = some (q, rest)) :
    q.IsCaseless ∧ meetsClassOrFlags true cs = meetsClassOrFlags false rest := by
  unfold namedGroup? at h
  obtain ⟨⟨name, r⟩, hName, h⟩ := Option.bind_eq_some_iff.1 h
  have hEnd : meetsClassOrFlags true cs = meetsClassOrFlags false r := by
    unfold groupName? at hName
    split at hName
    · rename_i hDrop
      split at hName
      · obtain ⟨-, rfl⟩ := Prod.mk.inj (Option.some.inj hName)
        exact meetsClassOrFlags_name hDrop
      · contradiction
    · contradiction
  dsimp only at h
  split at h
  · contradiction
  · obtain ⟨opened, hOpen, hSame⟩ := Option.bind_eq_some_iff.1 h
    obtain ⟨rfl, rfl⟩ := Prod.mk.inj (Option.some.inj hSame)
    have hNamed : { p with names := name :: p.names }.IsCaseless :=
      ⟨hp.flags, hp.branches, hp.parts, hp.frames⟩
    exact ⟨hNamed.openCapture? hOpen, hEnd⟩

theorem group?_caseless (hp : p.IsCaseless) (h : group? p cs = some (q, rest))
    (hNone : meetsClassOrFlags false ('(' :: cs) = false) :
    q.IsCaseless ∧ meetsClassOrFlags false rest = false := by
  unfold group? at h
  split at h
  · -- A name behind a `P`.
    obtain ⟨hOpened, hEnd⟩ := namedGroup?_caseless hp h
    exact ⟨hOpened, hEnd.symm.trans hNone⟩
  · contradiction
  · contradiction
  · -- A name behind the angle bracket alone.
    obtain ⟨hOpened, hEnd⟩ := namedGroup?_caseless hp h
    exact ⟨hOpened, hEnd.symm.trans hNone⟩
  · contradiction
  · -- Without flags and a name, a question mark has a colon behind it.
    rename_i cs hNamedP _ _ hNamed _
    obtain ⟨r, rfl, hNoneBehind⟩ := exists_colon hNone hNamed hNamedP
    have hOpens : (p.openGroup? none p.flags).bind (fun q => some (q, r)) = some (q, rest) := h
    obtain ⟨opened, hOpen, hSame⟩ := Option.bind_eq_some_iff.1 hOpens
    obtain ⟨rfl, rfl⟩ := Prod.mk.inj (Option.some.inj hSame)
    exact ⟨hp.openGroup? hp.flags hOpen, hNoneBehind⟩
  · -- Without a question mark the group captures.
    rename_i hOther
    have hHead : cs.head? ≠ some '?' := by
      rintro hHead
      obtain ⟨r, rfl⟩ := List.head?_eq_some_iff.1 hHead
      exact hOther r rfl
    obtain ⟨opened, hOpen, hSame⟩ := Option.bind_eq_some_iff.1 h
    obtain ⟨rfl, rfl⟩ := Prod.mk.inj (Option.some.inj hSame)
    exact ⟨hp.openCapture? hOpen, (meetsClassOrFlags_capture hHead).symm.trans hNone⟩

/-- The dot matches a letter in both its cases. -/
theorem ignoresCase_dot : Flags.caselessOnly.dot.IgnoresCase :=
  CharSet.ignoresCase_of_letters (by decide)

/-- **One sign** keeps what has been read caseless, and leaves no class or flags behind it. -/
theorem sign?_caseless (hp : p.IsCaseless) (h : sign? p cs = some (q, rest))
    (hNone : meetsClassOrFlags false cs = false) :
    q.IsCaseless ∧ meetsClassOrFlags false rest = false := by
  have hRepeat {least : Nat} {most : Option Nat} {r : List Char}
      (h : (p.repeat? least most).map (fun q => (q, dropReluctant r)) = some (q, rest))
      (hNone : meetsClassOrFlags false r = false) :
      q.IsCaseless ∧ meetsClassOrFlags false rest = false := by
    obtain ⟨repeated, hRepeat, hSame⟩ := Option.map_eq_some_iff.1 h
    obtain ⟨rfl, rfl⟩ := Prod.mk.inj hSame
    exact ⟨hp.repeat? hRepeat, (passes_dropReluctant r).meetsClassOrFlags_eq ▸ hNone⟩
  have hPush {part : Pattern} {r : List Char} (h : some (p.push part, r) = some (q, rest))
      (hPart : Caseless part) (hNone : meetsClassOrFlags false r = false) :
      q.IsCaseless ∧ meetsClassOrFlags false rest = false := by
    obtain ⟨rfl, rfl⟩ := Prod.mk.inj (Option.some.inj h)
    exact ⟨hp.push hPart, hNone⟩
  unfold sign? at h
  rw [hp.flags] at h
  split at h
  · contradiction
  · exact group?_caseless hp h hNone
  · -- The innermost group is closed.
    obtain ⟨closed, hClose, hSame⟩ := Option.map_eq_some_iff.1 h
    obtain ⟨rfl, rfl⟩ := Prod.mk.inj hSame
    exact ⟨hp.closeGroup? hClose, hNone⟩
  · -- A branch begins.
    obtain ⟨rfl, rfl⟩ := Prod.mk.inj (Option.some.inj h)
    exact ⟨hp.branch, hNone⟩
  · -- The text has no class.
    exact absurd hNone Bool.noConfusion
  · exact hRepeat h hNone
  · exact hRepeat h hNone
  · exact hRepeat h hNone
  · -- The last part is repeated by counts.
    obtain ⟨⟨least, most, r⟩, hCounts, hRest⟩ := Option.bind_eq_some_iff.1 h
    obtain ⟨repeated, hRepeated, hSame⟩ := Option.bind_eq_some_iff.1 hRest
    refine hRepeat (Option.map_eq_some_iff.2 ⟨repeated, hRepeated, Option.some.inj hSame⟩) ?_
    exact (passes_counts? hCounts).meetsClassOrFlags_eq ▸ hNone
  · obtain ⟨⟨i, r⟩, hEscape, hSame⟩ := Option.map_eq_some_iff.1 h
    obtain ⟨hItem, hEnd⟩ := escape?_caseless hEscape
    exact hPush (congrArg some hSame) hItem (hEnd ▸ hNone)
  · exact hPush h (.chars ignoresCase_dot) hNone
  · exact hPush h (.look _) hNone
  · exact hPush h (.look _) hNone
  · -- Any other sign stands for itself.
    rename_i c r hGroup _ _ hClass _ _ _ _ hBackslash _ _ _
    have hOrdinary : IsOrdinary c := ⟨hBackslash, hClass, hGroup⟩
    exact hPush h (caseless_letter c) (meetsClassOrFlags_ordinary hOrdinary r ▸ hNone)

/-! ## Whole texts -/

theorem signs?_caseless {fuel : Nat} (hp : p.IsCaseless) (h : signs? fuel p cs = some q)
    (hNone : meetsClassOrFlags false cs = false) : q.IsCaseless := by
  -- On the fuel: each sign hands the invariant and the rest of the text on to the next.
  induction fuel generalizing p cs with
  | zero => contradiction
  | succ fuel ih =>
    rw [signs?, hp.flags] at h
    cases cs with
    | nil =>
      obtain rfl : p = q := Option.some.inj h
      exact hp
    | cons c cs =>
      obtain ⟨⟨read, rest⟩, hSign, hRest⟩ := Option.bind_eq_some_iff.1 h
      obtain ⟨hRead, hNoneBehind⟩ := sign?_caseless hp hSign hNone
      exact ih hRead hRest hNoneBehind

/-- A text without classes and flags that is read as a pattern **is read as a caseless one**. -/
theorem parse?_caseless {pattern : Pattern} (h : parse? cs = some pattern)
    (hNone : meetsClassOrFlags false cs = false) : Caseless pattern := by
  obtain ⟨read, hRead, hBody⟩ := Option.bind_eq_some_iff.1 h
  have hStart : Progress.IsCaseless { flags := .caselessOnly } :=
    ⟨rfl, List.forall_mem_nil _, List.forall_mem_nil _, List.forall_mem_nil _⟩
  have hCaseless := (signs?_caseless hStart hRead hNone).body
  split at hBody
  · exact Option.some.inj hBody ▸ hCaseless
  · contradiction

end TreeShell.Pattern
