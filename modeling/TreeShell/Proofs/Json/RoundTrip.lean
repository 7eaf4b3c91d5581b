import Mathlib.Tactic.Common
import TreeShell.Json.Reader
import TreeShell.Json.Writer

/-!
# Values survive their text

The text of a value is cut into the tokens of the value, and the machine of the reader
builds the value from them.  Every text may stand in a string, and values may nest to any
depth; numerals are left out, since a saved state holds none.

Main statement: `parse?_render`.
-/

namespace TreeShell.Json

/-! ## Values without numerals -/

mutual

/-- Whether a value holds no numeral. -/
def isNumberFree : Json → Bool
  | .null | .bool _ | .string _ => true
  | .number _ => false
  | .array items => areNumberFree items
  | .object members => membersNumberFree members

/-- `isNumberFree` for every item of an array. -/
def areNumberFree : List Json → Bool
  | [] => true
  | v :: vs => isNumberFree v && areNumberFree vs

/-- `isNumberFree` for every value of an object. -/
def membersNumberFree : List (Literal × Json) → Bool
  | [] => true
  | (_, v) :: ms => isNumberFree v && membersNumberFree ms

end

/-! ## The tokens of a value -/

mutual

/-- The tokens that spell a value. -/
def toTokens : Json → List Token
  | .string s => [.string s]
  | .array [] => [.beginArray, .endArray]
  | .array (v :: vs) => .beginArray :: (toTokens v ++ itemTokens vs)
  | .object [] => [.beginObject, .endObject]
  | .object ((k, v) :: ms) =>
    .beginObject :: .string k :: .colon :: (toTokens v ++ memberTokens ms)
  | v => [.scalar v]

/-- The tokens of an array from the end of an item on. -/
def itemTokens : List Json → List Token
  | [] => [.endArray]
  | v :: vs => .comma :: (toTokens v ++ itemTokens vs)

/-- The tokens of an object from the end of a member on. -/
def memberTokens : List (Literal × Json) → List Token
  | [] => [.endObject]
  | (k, v) :: ms => .comma :: .string k :: .colon :: (toTokens v ++ memberTokens ms)

end

/-! ## Strings -/

/-- How a character stands in a string: a control character without a letter of its own
by its number, and every other character as itself. -/
def Part.ofChar (c : Char) : Part :=
  if c.toNat < 0x20 ∧ c ∉ ['\x08', '\x0c', '\n', '\r', '\t'] then .unit c.toNat else .char c

theorem unit?_control :
    ∀ n < 0x20, unit? '0' '0' (Nat.digitChar (n / 16)) (Nat.digitChar (n % 16)) = some n := by
  decide

theorem stringTokens_escapeChar (parts : List Part) (c : Char) (r : List Char) :
    stringTokens parts (escapeChar c ++ r) = stringTokens (Part.ofChar c :: parts) r := by
  unfold escapeChar
  split_ifs with hQuote hBackslash hBackspace hFeed hNewline hReturn hTab hControl
  · subst hQuote; rfl
  · subst hBackslash; rfl
  · subst hBackspace; rfl
  · subst hFeed; rfl
  · subst hNewline; rfl
  · subst hReturn; rfl
  · subst hTab; rfl
  · -- a control character by its number
    have hPart : Part.ofChar c = .unit c.toNat := by
      simp [Part.ofChar, hControl, hBackspace, hFeed, hNewline, hReturn, hTab]
    simp only [List.cons_append, List.nil_append, stringTokens, unit?_control _ hControl, hPart]
  · -- any other character as itself
    have hPart : Part.ofChar c = .char c := by
      simp [Part.ofChar, hControl]
    simp [stringTokens, hBackslash, hControl, hPart]

theorem stringTokens_escape (cs : List Char) (parts : List Part) (r : List Char) :
    stringTokens parts (escape cs ++ r)
      = stringTokens ((cs.map Part.ofChar).reverse ++ parts) r := by
  -- The parts are read back to front, so those already read are arbitrary.
  induction cs generalizing parts with
  | nil => rfl
  | cons c cs ih =>
    rw [escape, List.append_assoc, stringTokens_escapeChar, ih]
    simp

/-- A unit below the surrogates denotes its character, whatever follows. -/
theorem assemble_unit {h : Nat} (ps : List Part) (hh : h < 0xD800) :
    assemble (.unit h :: ps) = (Char.ofNat h :: ·) <$> assemble ps := by
  have hNotHigh : ¬ 0xD800 ≤ h := by omega
  rcases ps with _ | ⟨_ | l, ps⟩ <;> simp [assemble, hNotHigh]

theorem assemble_map_ofChar (cs : List Char) : assemble (cs.map Part.ofChar) = some cs := by
  induction cs with
  | nil => rfl
  | cons c cs ih =>
    rw [List.map_cons, Part.ofChar]
    split_ifs with hControl
    · -- A control character is far below the surrogates, so no pair begins here.
      rw [assemble_unit _ (by omega), ih, Char.ofNat_toNat]
      rfl
    · rw [assemble, ih]
      rfl

theorem tokens_literal (s : Literal) (r : List Char) :
    tokens (Literal.render s ++ r) = (Token.string s :: ·) <$> tokens r := by
  cases s with
  | none => rfl
  | some s =>
    have hText : literal ((s.toList.map Part.ofChar).reverse).reverse = some s := by
      simp [literal, assemble_map_ofChar]
    simp only [Literal.render, List.cons_append, List.append_assoc, List.nil_append, tokens,
      stringTokens_escape, List.append_nil, stringTokens, hText]

/-! ## Cutting a text into tokens -/

theorem tokens_mark {c : Char} {t : Token} (h : Token.ofMark? c = some t) (r : List Char) :
    tokens (c :: r) = (t :: ·) <$> tokens r := by
  unfold Token.ofMark? at h
  split at h <;>
    first
    | (cases h; simp [tokens, isBetween, isNumeralChar, Token.ofMark?])
    | contradiction

-- Any text may follow: no token of a value but a numeral depends on what comes after it.
mutual

theorem tokens_render : ∀ (v : Json) (r : List Char), v.isNumberFree = true →
    tokens (render v ++ r) = (toTokens v ++ ·) <$> tokens r
  | .null, r, _ => by simp [render, tokens, toTokens]
  | .bool true, r, _ => by simp [render, tokens, toTokens]
  | .bool false, r, _ => by simp [render, tokens, toTokens]
  | .number n, r, h => by simp [isNumberFree] at h
  | .string s, r, _ => by simp [render, tokens_literal, toTokens]
  | .array [], r, _ => by
    simp [render, toTokens, tokens_mark (c := '[') rfl, tokens_mark (c := ']') rfl]
    rfl
  | .array (v :: vs), r, h => by
    simp only [isNumberFree, areNumberFree, Bool.and_eq_true] at h
    simp only [render, List.cons_append, List.append_assoc]
    rw [tokens_mark (c := '[') rfl, tokens_render v _ h.1, tokens_renderItems vs r h.2]
    simp [toTokens, Function.comp_def]
  | .object [], r, _ => by
    simp [render, toTokens, tokens_mark (c := '{') rfl, tokens_mark (c := '}') rfl]
    rfl
  | .object ((k, v) :: ms), r, h => by
    simp only [isNumberFree, membersNumberFree, Bool.and_eq_true] at h
    simp only [render, List.cons_append, List.append_assoc]
    rw [tokens_mark (c := '{') rfl, tokens_literal, tokens_mark (c := ':') rfl,
      tokens_render v _ h.1, tokens_renderMembers ms r h.2]
    simp [toTokens, Function.comp_def]

theorem tokens_renderItems : ∀ (vs : List Json) (r : List Char), areNumberFree vs = true →
    tokens (renderItems vs ++ r) = (itemTokens vs ++ ·) <$> tokens r
  | [], r, _ => by simp [renderItems, itemTokens, tokens_mark (c := ']') rfl]
  | v :: vs, r, h => by
    simp only [areNumberFree, Bool.and_eq_true] at h
    simp only [renderItems, List.cons_append, List.append_assoc]
    rw [tokens_mark (c := ',') rfl, tokens_render v _ h.1, tokens_renderItems vs r h.2]
    simp [itemTokens, Function.comp_def]

theorem tokens_renderMembers : ∀ (ms : List (Literal × Json)) (r : List Char),
    membersNumberFree ms = true →
    tokens (renderMembers ms ++ r) = (memberTokens ms ++ ·) <$> tokens r
  | [], r, _ => by simp [renderMembers, memberTokens, tokens_mark (c := '}') rfl]
  | (k, v) :: ms, r, h => by
    simp only [membersNumberFree, Bool.and_eq_true] at h
    simp only [renderMembers, List.cons_append, List.append_assoc]
    rw [tokens_mark (c := ',') rfl, tokens_literal, tokens_mark (c := ':') rfl,
      tokens_render v _ h.1, tokens_renderMembers ms r h.2]
    simp [memberTokens, Function.comp_def]

end

/-! ## Building a value from tokens -/

theorem foldlM_step_cons {c d : Cursor} {t : Token} (h : Cursor.step c t = some d)
    (ts : List Token) : (t :: ts).foldlM Cursor.step c = ts.foldlM Cursor.step d := by
  rw [List.foldlM_cons, h]
  rfl

/-- No value begins with the end of an array. -/
theorem exists_toTokens_eq_cons (v : Json) :
    ∃ t ts, toTokens v = t :: ts ∧
      ∀ stack, Cursor.step (.firstItem stack) t = Cursor.step (.value (.array [] :: stack)) t := by
  unfold toTokens
  split <;> exact ⟨_, _, rfl, fun _ => rfl⟩

/-- Where the first item of an array may stand, a value is read as where one must stand. -/
theorem foldlM_toTokens_firstItem (v : Json) (ts : List Token) (stack : List Frame) :
    (toTokens v ++ ts).foldlM Cursor.step (.firstItem stack)
      = (toTokens v ++ ts).foldlM Cursor.step (.value (.array [] :: stack)) := by
  obtain ⟨t, rest, hTokens, hStep⟩ := exists_toTokens_eq_cons v
  rw [hTokens, List.cons_append, List.foldlM_cons, List.foldlM_cons, hStep]

-- The stack is arbitrary: an item and a member value are read above the frame they go to.
mutual

/-- Where a value is awaited, its tokens complete it. -/
theorem foldlM_toTokens : ∀ (v : Json) (ts : List Token) (stack : List Frame),
    (toTokens v ++ ts).foldlM Cursor.step (.value stack)
      = ts.foldlM Cursor.step (.after v stack)
  | .null, ts, stack => foldlM_step_cons rfl ts
  | .bool _, ts, stack => foldlM_step_cons rfl ts
  | .number _, ts, stack => foldlM_step_cons rfl ts
  | .string _, ts, stack => foldlM_step_cons rfl ts
  | .array [], ts, stack =>
    (foldlM_step_cons rfl _).trans (foldlM_step_cons rfl ts)
  | .array (v :: vs), ts, stack => by
    simp only [toTokens, List.cons_append, List.append_assoc]
    rw [foldlM_step_cons (d := .firstItem stack) rfl, foldlM_toTokens_firstItem,
      foldlM_toTokens v, foldlM_itemTokens vs]
    rfl
  | .object [], ts, stack =>
    (foldlM_step_cons rfl _).trans (foldlM_step_cons rfl ts)
  | .object ((k, v) :: ms), ts, stack => by
    simp only [toTokens, List.cons_append, List.append_assoc]
    rw [foldlM_step_cons (d := .firstName stack) rfl, foldlM_step_cons (d := .colon [] k stack) rfl,
      foldlM_step_cons (d := .value (.object [] k :: stack)) rfl, foldlM_toTokens v,
      foldlM_memberTokens ms]
    rfl

theorem foldlM_itemTokens : ∀ (vs : List Json) (ts : List Token) (v : Json)
    (items : List Json) (stack : List Frame),
    (itemTokens vs ++ ts).foldlM Cursor.step (.after v (.array items :: stack))
      = ts.foldlM Cursor.step (.after (.array (items.reverse ++ v :: vs)) stack)
  | [], ts, v, items, stack => by
    rw [itemTokens, List.singleton_append,
      foldlM_step_cons (d := .after (.array (v :: items).reverse) stack) rfl, List.reverse_cons]
  | w :: vs, ts, v, items, stack => by
    simp only [itemTokens, List.cons_append, List.append_assoc]
    rw [foldlM_step_cons (d := .value (.array (v :: items) :: stack)) rfl, foldlM_toTokens w,
      foldlM_itemTokens vs, List.reverse_cons, List.append_assoc, List.singleton_append]

theorem foldlM_memberTokens : ∀ (ms : List (Literal × Json)) (ts : List Token) (k : Literal)
    (v : Json) (members : List (Literal × Json)) (stack : List Frame),
    (memberTokens ms ++ ts).foldlM Cursor.step (.after v (.object members k :: stack))
      = ts.foldlM Cursor.step (.after (.object (members.reverse ++ (k, v) :: ms)) stack)
  | [], ts, k, v, members, stack => by
    rw [memberTokens, List.singleton_append,
      foldlM_step_cons (d := .after (.object ((k, v) :: members).reverse) stack) rfl,
      List.reverse_cons]
  | (l, w) :: ms, ts, k, v, members, stack => by
    simp only [memberTokens, List.cons_append, List.append_assoc]
    rw [foldlM_step_cons (d := .name ((k, v) :: members) stack) rfl,
      foldlM_step_cons (d := .colon ((k, v) :: members) l stack) rfl,
      foldlM_step_cons (d := .value (.object ((k, v) :: members) l :: stack)) rfl,
      foldlM_toTokens w, foldlM_memberTokens ms, List.reverse_cons, List.append_assoc,
      List.singleton_append]

end

/-! ## Reading a rendered value -/

theorem ofTokens?_toTokens (v : Json) : ofTokens? (toTokens v) = some v := by
  have h := foldlM_toTokens v [] []
  simp only [List.append_nil, List.foldlM_nil] at h
  simp [ofTokens?, h, Cursor.result?]

/-- **Reading back**: the text of a value without numerals spells that value. -/
theorem parse?_render {v : Json} (h : v.isNumberFree = true) : parse? v.render = some v := by
  have hTokens : tokens v.render = some (toTokens v) := by
    have hRender := tokens_render v [] h
    simpa [tokens] using hRender
  simp [parse?, hTokens, ofTokens?_toTokens]

end TreeShell.Json
