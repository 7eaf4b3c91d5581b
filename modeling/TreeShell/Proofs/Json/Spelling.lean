import Mathlib.Tactic.Common
import TreeShell.Proofs.Json.RoundTrip

/-!
# The texts of a value

A value has many texts: blanks may stand between its tokens, a character of a string may be
written as itself, by a letter or by its number, and an exponent with either mark and with or
without a plus.  Each of these texts is read as the value.

## Layers

- `Numeral.Spells`, `Numeral.ofChars?_of_spells`: numerals;
- `SpellParts`, `stringTokens_append`: what stands between the quotes of a string;
- `Token.Spells`, `tokens_append`: a token, with anything behind it that cannot belong to it;
- `Spelling`, `tokens_of_spelling`: tokens with blanks between them;
- `Spells`, `parse?_of_spells`: values.
-/

namespace TreeShell.Json

/-! ## Numerals -/

/-- Whether a text is one digit or more. -/
structure IsDigits (ds : List Char) : Prop where
  nonempty : ds ≠ []
  digits : ∀ d ∈ ds, d.isDigit = true

/-- Whether a text does not begin with a digit. -/
def NoDigit (cs : List Char) : Prop :=
  ∀ c ∈ cs.head?, c.isDigit = false

/-- How the digits after the point are spelled, with the point. -/
inductive SpellsFraction : List Char → List Char → Prop where
  | none : SpellsFraction [] []
  | point {ds : List Char} (h : IsDigits ds) : SpellsFraction ds ('.' :: ds)

/-- How an exponent is spelled, with its mark. -/
inductive SpellsExponent : Option (Bool × List Char) → List Char → Prop where
  | none : SpellsExponent none []
  | bare {e : Char} {ds : List Char} (hMark : e = 'e' ∨ e = 'E') (h : IsDigits ds) :
      SpellsExponent (some (false, ds)) (e :: ds)
  | plus {e : Char} {ds : List Char} (hMark : e = 'e' ∨ e = 'E') (h : IsDigits ds) :
      SpellsExponent (some (false, ds)) (e :: '+' :: ds)
  | minus {e : Char} {ds : List Char} (hMark : e = 'e' ∨ e = 'E') (h : IsDigits ds) :
      SpellsExponent (some (true, ds)) (e :: '-' :: ds)

/-- How a numeral is spelled: a zero in front of the point stands alone. -/
inductive Numeral.Spells : Numeral → List Char → Prop where
  | mk {negative : Bool} {whole fraction f e : List Char} {exponent : Option (Bool × List Char)}
      (hWhole : IsDigits whole) (hZero : whole.head? = some '0' → whole = ['0'])
      (hFraction : SpellsFraction fraction f) (hExponent : SpellsExponent exponent e) :
      Numeral.Spells ⟨negative, whole, fraction, exponent⟩
        ((if negative then ['-'] else []) ++ (whole ++ (f ++ e)))

theorem someDigits?_append {ds r : List Char} (h : IsDigits ds) (hEnd : NoDigit r) :
    someDigits? (ds ++ r) = some (ds, r) := by
  obtain ⟨hTake, hDrop⟩ : r.takeWhile Char.isDigit = [] ∧ r.dropWhile Char.isDigit = r := by
    cases r with
    | nil => exact ⟨rfl, rfl⟩
    | cons c r => simp [hEnd c (by simp)]
  have hFront : (ds ++ r).takeWhile Char.isDigit = ds := by
    rw [List.takeWhile_append_of_pos h.digits, hTake, List.append_nil]
  obtain ⟨d, ds, rfl⟩ := List.exists_cons_of_ne_nil h.nonempty
  rw [someDigits?, hFront, List.dropWhile_append_of_pos h.digits, hDrop]

theorem someDigits?_of_isDigits {ds : List Char} (h : IsDigits ds) :
    someDigits? ds = some (ds, []) := by
  have hAll := someDigits?_append h (r := []) (by simp [NoDigit])
  rwa [List.append_nil] at hAll

theorem whole?_append {ds r : List Char} (h : IsDigits ds)
    (hZero : ds.head? = some '0' → ds = ['0']) (hEnd : NoDigit r) :
    whole? (ds ++ r) = some (ds, r) := by
  have hAlone : ¬ (ds.head? = some '0' ∧ 1 < ds.length) := by
    rintro ⟨hHead, hLength⟩
    simp [hZero hHead] at hLength
  rw [whole?, someDigits?_append h hEnd, Option.bind_eq_bind, Option.bind_some]
  exact if_neg hAlone

/-- An exponent begins with a letter, and so ends the digits in front of it. -/
theorem SpellsExponent.head? {exponent : Option (Bool × List Char)} {e : List Char}
    (h : SpellsExponent exponent e) : ∀ c ∈ e.head?, c = 'e' ∨ c = 'E' := by
  cases h with
  | none => simp
  | bare hMark | plus hMark | minus hMark => simpa using hMark

theorem SpellsExponent.noDigit {exponent : Option (Bool × List Char)} {e : List Char}
    (h : SpellsExponent exponent e) : NoDigit e := by
  intro c hc
  rcases h.head? c hc with rfl | rfl <;> rfl

theorem SpellsFraction.noDigit_append {fraction f e : List Char}
    {exponent : Option (Bool × List Char)} (h : SpellsFraction fraction f)
    (hExponent : SpellsExponent exponent e) : NoDigit (f ++ e) := by
  cases h with
  | none => exact hExponent.noDigit
  | point => simp [NoDigit]

theorem fraction?_append {fraction f e : List Char} {exponent : Option (Bool × List Char)}
    (h : SpellsFraction fraction f) (hExponent : SpellsExponent exponent e) :
    fraction? (f ++ e) = some (fraction, e) := by
  cases h with
  | none =>
    rw [List.nil_append]
    unfold fraction?
    split
    · -- No point begins an exponent.
      have hHead := hExponent.head? '.' (by simp)
      simp at hHead
    · rfl
  | point hDigits => exact someDigits?_append hDigits hExponent.noDigit

theorem exponent?_of_spells {exponent : Option (Bool × List Char)} {e : List Char}
    (h : SpellsExponent exponent e) : exponent? e = some (exponent, []) := by
  cases h with
  | none => rfl
  | @bare e ds hMark hDigits =>
    have hBare : exponentDigits? ds = some ((false, ds), []) := by
      unfold exponentDigits?
      -- The first character is a digit and so no sign.
      split
      · exact absurd (hDigits.digits '-' (by simp)) (by decide)
      · exact absurd (hDigits.digits '+' (by simp)) (by decide)
      · rw [someDigits?_of_isDigits hDigits]
        rfl
    rw [exponent?, if_pos hMark, hBare]
    rfl
  | plus hMark hDigits | minus hMark hDigits =>
    rw [exponent?, if_pos hMark, exponentDigits?, someDigits?_of_isDigits hDigits]
    rfl

/-- A spelled numeral is read. -/
theorem Numeral.ofChars?_of_spells {n : Numeral} {cs : List Char} (h : n.Spells cs) :
    Numeral.ofChars? cs = some n := by
  cases h with
  | @mk negative whole fraction f e exponent hWhole hZero hFraction hExponent =>
    have hFirst : whole? (whole ++ (f ++ e)) = some (whole, f ++ e) :=
      whole?_append hWhole hZero (hFraction.noDigit_append hExponent)
    have hSecond : fraction? (f ++ e) = some (fraction, e) := fraction?_append hFraction hExponent
    have hThird : exponent? e = some (exponent, []) := exponent?_of_spells hExponent
    cases negative with
    | true => simp [Numeral.ofChars?, hFirst, hSecond, hThird]
    | false =>
      -- The sign is told by the first character, which is a digit here.
      obtain ⟨d, ds, rfl⟩ := List.exists_cons_of_ne_nil hWhole.nonempty
      have hSign : d ≠ '-' := by
        rintro rfl
        exact absurd (hWhole.digits '-' (by simp)) (by decide)
      rw [List.cons_append] at hFirst
      simp [Numeral.ofChars?, hSign, hFirst, hSecond, hThird]

/-- Every character of a numeral can occur in one. -/
theorem Numeral.Spells.forall_isNumeralChar {n : Numeral} {cs : List Char} (h : n.Spells cs) :
    ∀ c ∈ cs, isNumeralChar c = true := by
  have hDigit : ∀ {ds : List Char}, IsDigits ds → ∀ c ∈ ds, isNumeralChar c = true :=
    fun hDigits c hc => by simp [isNumeralChar, hDigits.digits c hc]
  have hMarked : ∀ {e : Char}, e = 'e' ∨ e = 'E' → isNumeralChar e = true := by
    rintro e (rfl | rfl) <;> rfl
  have hSign : ∀ negative : Bool, ∀ c ∈ (if negative then ['-'] else []),
      isNumeralChar c = true := by
    rintro (_ | _) c hSign
    · simp at hSign
    · obtain rfl : c = '-' := by simpa using hSign
      rfl
  cases h with
  | @mk negative whole fraction f e exponent hWhole hZero hFraction hExponent =>
    have hPoint : ∀ c ∈ f, isNumeralChar c = true := by
      cases hFraction with
      | none => simp
      | point hDigits => exact List.forall_mem_cons.2 ⟨rfl, hDigit hDigits⟩
    have hPower : ∀ c ∈ e, isNumeralChar c = true := by
      cases hExponent with
      | none => simp
      | bare hMark hDigits => exact List.forall_mem_cons.2 ⟨hMarked hMark, hDigit hDigits⟩
      | plus hMark hDigits | minus hMark hDigits =>
        exact List.forall_mem_cons.2
          ⟨hMarked hMark, List.forall_mem_cons.2 ⟨rfl, hDigit hDigits⟩⟩
    simp only [List.forall_mem_append]
    exact ⟨hSign negative, hDigit hWhole, hPoint, hPower⟩

theorem Numeral.Spells.ne_nil {n : Numeral} {cs : List Char} (h : n.Spells cs) : cs ≠ [] := by
  cases h with
  | mk hWhole => simp [hWhole.nonempty]

/-! ## Strings -/

/-- How a part of a string is spelled: a character as itself, unless it is a quote, a backslash
or a control character; a character by its letter; and a unit by its four digits. -/
inductive Part.Spells : Part → List Char → Prop where
  | plain {c : Char} (hRange : 0x20 ≤ c.toNat) (hQuote : c ≠ '"') (hBackslash : c ≠ '\\') :
      Part.Spells (.char c) [c]
  | letter {e c : Char} (h : shortEscape? e = some c) : Part.Spells (.char c) ['\\', e]
  | digits {a b c d : Char} {n : Nat} (h : unit? a b c d = some n) :
      Part.Spells (.unit n) ['\\', 'u', a, b, c, d]

/-- How the parts of a string are spelled one after the other. -/
inductive SpellParts : List Part → List Char → Prop where
  | nil : SpellParts [] []
  | cons {p : Part} {ps : List Part} {cs ds : List Char} (h : p.Spells cs)
      (hRest : SpellParts ps ds) : SpellParts (p :: ps) (cs ++ ds)

theorem stringTokens_part {p : Part} {cs : List Char} (h : p.Spells cs) (before : List Part)
    (r : List Char) : stringTokens before (cs ++ r) = stringTokens (p :: before) r := by
  cases h with
  | @plain c hRange hQuote hBackslash =>
    have hControl : ¬ c.toNat < 0x20 := Nat.not_lt.2 hRange
    simp [stringTokens, hBackslash, hControl]
  | @letter e c hLetter =>
    unfold shortEscape? at hLetter
    split at hLetter
    case h_9 => contradiction
    all_goals
      obtain rfl := Option.some.inj hLetter
      rfl
  | digits hDigits => simp only [List.cons_append, List.nil_append, stringTokens, hDigits]

theorem stringTokens_append {ps : List Part} {cs : List Char} (h : SpellParts ps cs)
    (before : List Part) (r : List Char) :
    stringTokens before (cs ++ r) = stringTokens (ps.reverse ++ before) r := by
  -- The parts are read back to front, so those already read are arbitrary.
  induction h generalizing before with
  | nil => rfl
  | cons hPart _ ih =>
    rw [List.append_assoc, stringTokens_part hPart, ih, List.reverse_cons, List.append_assoc,
      List.singleton_append]

/-! ## Tokens -/

/-- How a token is spelled. -/
inductive Token.Spells : Token → List Char → Prop where
  | mark {c : Char} {t : Token} (h : Token.ofMark? c = some t) : Token.Spells t [c]
  | string {ps : List Part} {cs : List Char} (h : SpellParts ps cs) :
      Token.Spells (.string (literal ps)) ('"' :: (cs ++ ['"']))
  | null : Token.Spells (.scalar .null) ['n', 'u', 'l', 'l']
  | true : Token.Spells (.scalar (.bool true)) ['t', 'r', 'u', 'e']
  | false : Token.Spells (.scalar (.bool false)) ['f', 'a', 'l', 's', 'e']
  | number {n : Numeral} {cs : List Char} (h : n.Spells cs) : Token.Spells (.scalar (.number n)) cs

/-- Whether a token may stand in front of a text: a numeral ends where a blank or a mark stands,
or the text. -/
def Token.MayPrecede (t : Token) (r : List Char) : Prop :=
  ∀ n, t = .scalar (.number n) →
    ∀ c ∈ r.head?, isBetween c = true ∨ (Token.ofMark? c).isSome = true

theorem tokens_between {c : Char} (h : isBetween c = true) (r : List Char) :
    tokens (c :: r) = tokens r := by
  simp only [isBetween, Bool.or_eq_true, decide_eq_true_eq] at h
  rcases h with ((rfl | rfl) | rfl) | rfl <;> rfl

theorem tokens_gap_append {gap : List Char} (h : ∀ c ∈ gap, isBetween c = true) (r : List Char) :
    tokens (gap ++ r) = tokens r := by
  induction gap with
  | nil => rfl
  | cons c gap ih =>
    obtain ⟨hHere, hRest⟩ := List.forall_mem_cons.1 h
    rw [List.cons_append, tokens_between hHere, ih hRest]

/-- The characters of a numeral are collected. -/
theorem numeralTokens_append {cs : List Char} (h : ∀ c ∈ cs, isNumeralChar c = true)
    (taken r : List Char) :
    numeralTokens taken (cs ++ r) = numeralTokens (cs.reverse ++ taken) r := by
  induction cs generalizing taken with
  | nil => rfl
  | cons c cs ih =>
    obtain ⟨hHere, hRest⟩ := List.forall_mem_cons.1 h
    rw [List.cons_append, numeralTokens, if_pos hHere, ih hRest, List.reverse_cons,
      List.append_assoc, List.singleton_append]

/-- Where a numeral ends, it is read, and then what follows it. -/
theorem numeralTokens_of_ofChars? {n : Numeral} {taken r : List Char}
    (h : Numeral.ofChars? taken.reverse = some n)
    (hEnd : ∀ c ∈ r.head?, isBetween c = true ∨ (Token.ofMark? c).isSome = true) :
    numeralTokens taken r = (Token.scalar (.number n) :: ·) <$> tokens r := by
  cases r with
  | nil => simp [numeralTokens, h, tokens]
  | cons c r =>
    -- Neither a blank nor a mark goes on with the numeral.
    have hOther : isNumeralChar c = false := by
      rcases hEnd c (by simp) with hBlank | hMark
      · simp only [isBetween, Bool.or_eq_true, decide_eq_true_eq] at hBlank
        rcases hBlank with ((rfl | rfl) | rfl) | rfl <;> rfl
      · obtain ⟨t, hMark⟩ := Option.isSome_iff_exists.1 hMark
        unfold Token.ofMark? at hMark
        split at hMark <;> first | rfl | contradiction
    rw [numeralTokens, hOther, h]
    by_cases hBlank : isBetween c = true
    · simp [hBlank, tokens_between hBlank]
    · obtain ⟨t, hMark⟩ := Option.isSome_iff_exists.1 ((hEnd c (by simp)).resolve_left hBlank)
      simp [hBlank, hMark, tokens_mark hMark, Function.comp_def]

theorem tokens_of_isNumeralChar {c : Char} (h : isNumeralChar c = true) (r : List Char) :
    tokens (c :: r) = numeralTokens [c] r := by
  -- Neither a blank nor the first character of a word or a string occurs in a numeral.
  have hOther : ∀ d : Char, isNumeralChar d = false → c ≠ d := by
    rintro d hd rfl
    simp [h] at hd
  have hBlank : isBetween c = false := by
    simp [isBetween, hOther ' ' rfl, hOther '\t' rfl, hOther '\n' rfl, hOther '\r' rfl]
  simp [tokens, hOther 't' rfl, hOther 'f' rfl, hOther 'n' rfl, hOther '"' rfl, hBlank, h]

theorem tokens_numeral {n : Numeral} {cs r : List Char} (h : n.Spells cs)
    (hEnd : ∀ c ∈ r.head?, isBetween c = true ∨ (Token.ofMark? c).isSome = true) :
    tokens (cs ++ r) = (Token.scalar (.number n) :: ·) <$> tokens r := by
  have hRead : Numeral.ofChars? cs = some n := Numeral.ofChars?_of_spells h
  obtain ⟨c, rest, rfl⟩ := List.exists_cons_of_ne_nil h.ne_nil
  obtain ⟨hHere, hRest⟩ := List.forall_mem_cons.1 h.forall_isNumeralChar
  rw [List.cons_append, tokens_of_isNumeralChar hHere, numeralTokens_append hRest]
  exact numeralTokens_of_ofChars? (by simpa using hRead) hEnd

/-- **Tokens** are read from any of their spellings, with what follows. -/
theorem tokens_append {t : Token} {cs r : List Char} (h : t.Spells cs) (hEnd : t.MayPrecede r) :
    tokens (cs ++ r) = (t :: ·) <$> tokens r := by
  cases h with
  | mark hMark => exact tokens_mark hMark r
  | @string ps cs hParts =>
    simp only [List.cons_append, List.append_assoc, List.nil_append, tokens,
      stringTokens_append hParts, List.append_nil, stringTokens, List.reverse_reverse]
  | null => rfl
  | true => rfl
  | false => rfl
  | number hNumeral => exact tokens_numeral hNumeral (hEnd _ rfl)

/-- How tokens are spelled one after the other, with blanks between. -/
inductive Spelling : List Token → List Char → Prop where
  | nil {gap : List Char} (hGap : ∀ c ∈ gap, isBetween c = true) : Spelling [] gap
  | cons {t : Token} {ts : List Token} {gap cs rest : List Char}
      (hGap : ∀ c ∈ gap, isBetween c = true) (h : t.Spells cs) (hEnd : t.MayPrecede rest)
      (hRest : Spelling ts rest) : Spelling (t :: ts) (gap ++ (cs ++ rest))

/-- **Texts** are cut into the tokens that they spell. -/
theorem tokens_of_spelling {ts : List Token} {cs : List Char} (h : Spelling ts cs) :
    tokens cs = some ts := by
  induction h with
  | @nil gap hGap =>
    have hNone := tokens_gap_append hGap []
    rwa [List.append_nil] at hNone
  | cons hGap hToken hEnd _ ih =>
    rw [tokens_gap_append hGap, tokens_append hToken hEnd, ih]
    rfl

theorem Spelling.cons_of_ne_number {t : Token} {ts : List Token} {cs rest : List Char}
    (h : t.Spells cs) (hOther : ∀ n, t ≠ .scalar (.number n)) (hRest : Spelling ts rest) :
    Spelling (t :: ts) (cs ++ rest) :=
  .cons (List.forall_mem_nil _) h (fun n hn => absurd hn (hOther n)) hRest

/-! ## Values -/

/-- Whether a text is one of the texts of a value. -/
def Spells (v : Json) (cs : List Char) : Prop :=
  Spelling (toTokens v) cs

/-- **Values** are read from each of their texts. -/
theorem parse?_of_spells {v : Json} {cs : List Char} (h : v.Spells cs) : parse? cs = some v := by
  rw [parse?, tokens_of_spelling h, Option.bind_eq_bind, Option.bind_some, ofTokens?_toTokens]

/-! ## The compact text -/

theorem spells_ofChar (c : Char) : (Part.ofChar c).Spells (escapeChar c) := by
  unfold escapeChar
  split_ifs with hQuote hBackslash hBackspace hFeed hNewline hReturn hTab hControl
  · subst hQuote; exact .letter rfl
  · subst hBackslash; exact .letter rfl
  · subst hBackspace; exact .letter rfl
  · subst hFeed; exact .letter rfl
  · subst hNewline; exact .letter rfl
  · subst hReturn; exact .letter rfl
  · subst hTab; exact .letter rfl
  · -- a control character by its number
    have hPart : Part.ofChar c = .unit c.toNat := by
      simp [Part.ofChar, hControl, hBackspace, hFeed, hNewline, hReturn, hTab]
    rw [hPart]
    exact .digits (unit?_control _ hControl)
  · -- any other character as itself
    have hPart : Part.ofChar c = .char c := by
      simp [Part.ofChar, hControl]
    rw [hPart]
    exact .plain (Nat.not_lt.1 hControl) hQuote hBackslash

theorem spellParts_escape (cs : List Char) : SpellParts (cs.map Part.ofChar) (escape cs) := by
  induction cs with
  | nil => exact .nil
  | cons c cs ih => exact .cons (spells_ofChar c) ih

theorem spells_literal (s : Literal) : (Token.string s).Spells (Literal.render s) := by
  cases s with
  | none =>
    have hHalf : unit? 'd' '8' '0' '0' = some 0xD800 := by decide
    exact .string (.cons (.digits hHalf) .nil)
  | some s =>
    have hText : literal (s.toList.map Part.ofChar) = some s := by
      simp [literal, assemble_map_ofChar]
    rw [← hText]
    have hParts := Token.Spells.string (spellParts_escape s.toList)
    simpa [hText, Literal.render] using hParts

theorem Spelling.cons_literal {ts : List Token} {rest : List Char} (s : Literal)
    (hRest : Spelling ts rest) : Spelling (.string s :: ts) (Literal.render s ++ rest) :=
  .cons_of_ne_number (spells_literal s) (fun _ => nofun) hRest

theorem Spelling.cons_mark {c : Char} {t : Token} {ts : List Token} {rest : List Char}
    (h : Token.ofMark? c = some t) (hRest : Spelling ts rest) : Spelling (t :: ts) (c :: rest) := by
  refine .cons_of_ne_number (.mark h) ?_ hRest
  rintro n rfl
  unfold Token.ofMark? at h
  split at h <;> simp at h

-- What follows is arbitrary, as the tokens of a value stand among others.
mutual

theorem spelling_render : ∀ (v : Json) {ts : List Token} {rest : List Char},
    v.isNumberFree = true → Spelling ts rest → Spelling (toTokens v ++ ts) (render v ++ rest)
  | .null, _, _, _, hRest => .cons_of_ne_number .null (fun _ => nofun) hRest
  | .bool true, _, _, _, hRest => .cons_of_ne_number .true (fun _ => nofun) hRest
  | .bool false, _, _, _, hRest => .cons_of_ne_number .false (fun _ => nofun) hRest
  | .number _, _, _, h, _ => by simp [isNumberFree] at h
  | .string s, _, _, _, hRest => .cons_literal s hRest
  | .array [], _, _, _, hRest => .cons_mark (c := '[') rfl (.cons_mark (c := ']') rfl hRest)
  | .array (v :: vs), _, _, h, hRest => by
    simp only [isNumberFree, areNumberFree, Bool.and_eq_true] at h
    simp only [toTokens, render, List.cons_append, List.append_assoc]
    exact .cons_mark (c := '[') rfl (spelling_render v h.1 (spelling_renderItems vs h.2 hRest))
  | .object [], _, _, _, hRest => .cons_mark (c := '{') rfl (.cons_mark (c := '}') rfl hRest)
  | .object ((k, v) :: ms), _, _, h, hRest => by
    simp only [isNumberFree, membersNumberFree, Bool.and_eq_true] at h
    simp only [toTokens, render, List.cons_append, List.append_assoc]
    exact .cons_mark (c := '{') rfl (.cons_literal k (.cons_mark (c := ':') rfl
      (spelling_render v h.1 (spelling_renderMembers ms h.2 hRest))))

theorem spelling_renderItems : ∀ (vs : List Json) {ts : List Token} {rest : List Char},
    areNumberFree vs = true → Spelling ts rest →
    Spelling (itemTokens vs ++ ts) (renderItems vs ++ rest)
  | [], _, _, _, hRest => .cons_mark (c := ']') rfl hRest
  | v :: vs, _, _, h, hRest => by
    simp only [areNumberFree, Bool.and_eq_true] at h
    simp only [itemTokens, renderItems, List.cons_append, List.append_assoc]
    exact .cons_mark (c := ',') rfl (spelling_render v h.1 (spelling_renderItems vs h.2 hRest))

theorem spelling_renderMembers : ∀ (ms : List (Literal × Json)) {ts : List Token}
    {rest : List Char}, membersNumberFree ms = true → Spelling ts rest →
    Spelling (memberTokens ms ++ ts) (renderMembers ms ++ rest)
  | [], _, _, _, hRest => .cons_mark (c := '}') rfl hRest
  | (k, v) :: ms, _, _, h, hRest => by
    simp only [membersNumberFree, Bool.and_eq_true] at h
    simp only [memberTokens, renderMembers, List.cons_append, List.append_assoc]
    exact .cons_mark (c := ',') rfl (.cons_literal k (.cons_mark (c := ':') rfl
      (spelling_render v h.1 (spelling_renderMembers ms h.2 hRest))))

end

/-- The compact text of a value without numerals is one of its texts. -/
theorem spells_render {v : Json} (h : v.isNumberFree = true) : v.Spells v.render := by
  have hText := spelling_render v h (.nil (List.forall_mem_nil _))
  rwa [List.append_nil, List.append_nil] at hText

end TreeShell.Json
