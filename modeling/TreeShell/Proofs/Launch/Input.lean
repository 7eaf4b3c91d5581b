import Mathlib.Tactic.Common
import TreeShell.Launch.Terminal

/-!
# Lines that are typed

Lines that are typed one after the other, each with a newline behind it, are read as these
lines: in UTF-8 no byte of another character is the byte of a newline.

Main statement: `inputLines_typed`.
-/

namespace TreeShell.Launch

/-! ## Bytes of texts -/

/-- Reading a byte array on from a place puts the bytes from there behind those read before. -/
theorem toList_loop_eq (bytes : ByteArray) (start : Nat) (read : List UInt8) :
    ByteArray.toList.loop bytes start read = read.reverse ++ bytes.data.toList.drop start := by
  fun_induction ByteArray.toList.loop bytes start read with
  | case1 start read h ih =>
    have hStart : start < bytes.data.toList.length := by simpa using h
    have hDrop : bytes.data.toList.drop start
        = bytes.get! start :: bytes.data.toList.drop (start + 1) := by
      rw [List.drop_eq_getElem_cons hStart]
      simp [ByteArray.get!, h]
    rw [ih, hDrop, List.reverse_cons, List.append_assoc, List.singleton_append]
  | case2 start read h =>
    have hEnd : bytes.data.toList.length ≤ start := by simpa using Nat.le_of_not_lt h
    rw [List.drop_eq_nil_of_le hEnd, List.append_nil]

theorem toList_eq_data (bytes : ByteArray) : bytes.toList = bytes.data.toList := by
  rw [ByteArray.toList, toList_loop_eq, List.reverse_nil, List.nil_append, List.drop_zero]

/-- The bytes of a text in UTF-8. -/
def bytesOf (text : String) : List UInt8 :=
  text.toUTF8.toList

theorem bytesOf_eq (text : String) : bytesOf text = text.toList.flatMap String.utf8EncodeChar := by
  have hText : text.toUTF8 = text.toList.utf8Encode := by
    rw [← String.toByteArray_ofList, String.ofList_toList]
    rfl
  rw [bytesOf, toList_eq_data, hText, List.utf8Encode, List.toList_data_toByteArray]

theorem bytesOf_append (a b : String) : bytesOf (a ++ b) = bytesOf a ++ bytesOf b := by
  simp only [bytesOf_eq, String.toList_append, List.flatMap_append]

/-- In UTF-8 the byte of a newline stands for a newline only. -/
theorem newline_notMem_utf8EncodeChar {c : Char} (h : c ≠ '\n') :
    (10 : UInt8) ∉ String.utf8EncodeChar c := by
  -- A byte of a longer encoding is 128 or more.
  have hByte : ∀ n : Nat, 128 ≤ n → n < 256 → (10 : UInt8) ≠ UInt8.ofNat n := by
    intro n hLow hHigh hEq
    have hValue := (UInt8.ofNat_eq_iff_mod_eq_toNat n 10).1 hEq.symm
    rw [Nat.mod_eq_of_lt hHigh] at hValue
    have hTen : (10 : UInt8).toNat = 10 := rfl
    omega
  unfold String.utf8EncodeChar
  simp only
  split
  · rename_i hAscii
    intro hMem
    have hEq := (UInt8.ofNat_eq_iff_mod_eq_toNat _ 10).1 (List.mem_singleton.1 hMem).symm
    have hTen : (10 : UInt8).toNat = 10 := rfl
    have hValue : c.val.toNat = 10 := by omega
    exact h (Char.ext (UInt32.toNat_inj.1 hValue))
  · split
    · simp only [List.mem_cons, List.not_mem_nil, or_false, not_or]
      exact ⟨hByte _ (by omega) (by omega), hByte _ (by omega) (by omega)⟩
    · split
      · simp only [List.mem_cons, List.not_mem_nil, or_false, not_or]
        exact ⟨hByte _ (by omega) (by omega), hByte _ (by omega) (by omega),
          hByte _ (by omega) (by omega)⟩
      · simp only [List.mem_cons, List.not_mem_nil, or_false, not_or]
        exact ⟨hByte _ (by omega) (by omega), hByte _ (by omega) (by omega),
          hByte _ (by omega) (by omega), hByte _ (by omega) (by omega)⟩

theorem newline_notMem_bytesOf {text : String} (h : '\n' ∉ text.toList) :
    (10 : UInt8) ∉ bytesOf text := by
  rw [bytesOf_eq, List.mem_flatMap]
  rintro ⟨c, hMem, hByte⟩
  refine newline_notMem_utf8EncodeChar ?_ hByte
  rintro rfl
  exact h hMem

theorem fromUTF8?_bytesOf (text : String) :
    String.fromUTF8? ⟨(bytesOf text).toArray⟩ = some text := by
  have hBytes : (⟨(bytesOf text).toArray⟩ : ByteArray) = text.toUTF8 := by
    rw [bytesOf, toList_eq_data]
  have hValid : text.toByteArray.IsValidUTF8 := text.isValidUTF8
  rw [hBytes]
  simp [String.fromUTF8?, hValid, String.fromUTF8]

/-! ## Cutting at newlines -/

theorem cutLine_append {line : List UInt8} (h : 10 ∉ line) (rest : List UInt8) :
    cutLine (line ++ 10 :: rest) = (line, some rest) := by
  induction line with
  | nil => rfl
  | cons b line ih =>
    obtain ⟨hByte, hLine⟩ := not_or.1 (fun hMem => h (List.mem_cons.2 hMem))
    rw [List.cons_append, cutLine, if_neg (Ne.symm hByte), ih hLine]

/-- Lines with a newline behind each are cut into these lines. -/
theorem linesOfBytes_flatMap {lines : List (List UInt8)} (h : ∀ line ∈ lines, 10 ∉ line)
    {fuel : Nat} (hFuel : lines.length < fuel) :
    linesOfBytes fuel (lines.flatMap fun line => line ++ [10])
      = lines.map fun line => ⟨line, true⟩ := by
  induction lines generalizing fuel with
  | nil =>
    cases fuel <;> rfl
  | cons line lines ih =>
    obtain ⟨hLine, hLines⟩ := List.forall_mem_cons.1 h
    cases fuel with
    | zero => contradiction
    | succ fuel =>
      have hCut : cutLine ((line :: lines).flatMap fun line => line ++ [10])
          = (line, some (lines.flatMap fun line => line ++ [10])) := by
        rw [List.flatMap_cons, List.append_assoc, List.singleton_append, cutLine_append hLine]
      have hSome : (line :: lines).flatMap (fun line => line ++ [10]) ≠ [] := by simp
      rw [linesOfBytes, hCut]
      · exact congrArg _ (ih hLines (Nat.lt_of_succ_lt_succ hFuel))
      · exact hSome

/-! ## Typed lines -/

/-- Lines as they are typed, each with a newline behind it. -/
def typed (lines : List String) : ByteArray :=
  (String.join (lines.map fun line => line ++ "\n")).toUTF8

/-- Whether a text can be typed as one line and is read as it is: without a newline, and
without a carriage return before the newline that ends it. -/
structure IsLine (line : String) : Prop where
  newline : '\n' ∉ line.toList
  ending : line.toList.getLast? ≠ some '\r'

theorem text?_bytesOf {line : String} (h : IsLine line) :
    InputLine.text? ⟨bytesOf line, true⟩ = some line := by
  simp only [InputLine.text?, fromUTF8?_bytesOf, Option.bind_eq_bind, Option.bind_some]
  split
  · rename_i cs _ hReverse
    refine absurd ?_ h.ending
    rw [← List.head?_reverse, hReverse]
    rfl
  · rfl

theorem toList_typed (lines : List String) :
    (typed lines).toList = (lines.map bytesOf).flatMap fun line => line ++ [10] := by
  have hNewline : bytesOf "\n" = [10] := by rw [bytesOf_eq]; rfl
  have hTyped : (typed lines).toList
      = bytesOf (String.join (lines.map fun line => line ++ "\n")) := rfl
  rw [hTyped]
  induction lines with
  | nil => rw [List.map_nil, String.join_nil, bytesOf_eq]; rfl
  | cons line lines ih =>
    rw [List.map_cons, String.join_cons, bytesOf_append, bytesOf_append, hNewline, ih rfl,
      List.map_cons, List.flatMap_cons]

/-- **Typed lines** are read one by one as they are. -/
theorem inputLines_typed {lines : List String} (h : ∀ line ∈ lines, IsLine line) :
    inputLines (typed lines) = lines.map some := by
  have hBytes : ∀ bytes ∈ lines.map bytesOf, 10 ∉ bytes := by
    intro bytes hMem
    obtain ⟨line, hLine, rfl⟩ := List.mem_map.1 hMem
    exact newline_notMem_bytesOf (h line hLine).newline
  have hFuel : (lines.map bytesOf).length < (typed lines).size + 1 := by
    have hSize : (typed lines).size = (typed lines).toList.length := by
      rw [toList_eq_data]
      rfl
    have hLength : ∀ ls : List (List UInt8),
        ls.length ≤ (ls.flatMap fun line => line ++ [10]).length := by
      intro ls
      induction ls with
      | nil => exact Nat.le_refl 0
      | cons line ls ih =>
        simp only [List.length_cons, List.flatMap_cons, List.length_append]
        omega
    rw [hSize, toList_typed]
    exact Nat.lt_succ_of_le (hLength _)
  rw [inputLines, toList_typed, linesOfBytes_flatMap hBytes hFuel, List.map_map, List.map_map]
  exact List.map_congr_left fun line hMem => text?_bytesOf (h line hMem)

end TreeShell.Launch
