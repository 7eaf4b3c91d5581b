import Mathlib.Tactic.Common
import TreeShell.Proofs.Effect
import TreeShell.Proofs.Tree.Retiming

/-!
# Commands in alike states

A command that is run in two states which differ in instants only, at any two instants, prints
the same and asks the same of the terminal, and the states that it leaves differ in instants
only.  The stores below do not matter: no command reads from them.

Main statement: `Command.alike_run`.
-/

namespace TreeShell

open TreeShell.Command TreeShell.Time TreeShell.Tree

namespace Command

/-- Whether two outcomes differ only in instants and in what lies below the states. -/
structure Outcome.Alike (o o' : Outcome) : Prop where
  result : o.result = o'.result
  signals : o.signals = o'.signals
  state : o.fs.state.Alike o'.fs.state

variable {fs fs' : FileSystem} {now now' : Instant}

/-! ## Outcomes -/

theorem Outcome.alike_still (h : fs.state.Alike fs'.state) (result : Result) :
    (still fs result).Alike (still fs' result) :=
  ⟨rfl, rfl, h⟩

theorem Outcome.alike_ofChange (h : fs.state.Alike fs'.state)
    {change change' : Except Failure State}
    (hChange : State.timeless <$> change = State.timeless <$> change') (refusal : String) :
    (ofChange fs (fs.commit <$> change) refusal).Alike
      (ofChange fs' (fs'.commit <$> change') refusal) := by
  rcases cases_of_map_eq hChange with ⟨f, rfl, rfl⟩ | ⟨s, s', rfl, rfl, hStates⟩
  · exact alike_still h (.refuse refusal)
  · exact ⟨rfl, rfl, hStates⟩

/-! ## Commands that change -/

theorem resolve_eq (h : fs.state.Alike fs'.state) (arg : String) :
    fs.resolve arg = fs'.resolve arg :=
  congrArg (Path.resolve · arg) h.currentPath_eq

theorem alike_cd (h : fs.state.Alike fs'.state) (args : List String) :
    (cd.run now args fs).Alike (cd.run now' args fs') := by
  cases args with
  | nil => exact ⟨rfl, rfl, h.setCurrentPath "/"⟩
  | cons arg args =>
    have hNode := h.map_isDirectory_node? (fs'.resolve arg)
    simp only [cd, resolve_eq h, FileSystem.node?]
    -- Both paths lead to nodes of one kind, or neither leads anywhere.
    cases hHere : fs.state.node? (fs'.resolve arg) with
    | none =>
      cases hThere : fs'.state.node? (fs'.resolve arg) with
      | none => exact Outcome.alike_still h _
      | some n' => simp [hHere, hThere] at hNode
    | some n =>
      cases hThere : fs'.state.node? (fs'.resolve arg) with
      | none => simp [hHere, hThere] at hNode
      | some n' =>
        have hKind : n.isDirectory = n'.isDirectory := by simpa [hHere, hThere] using hNode
        simp only [hKind]
        split
        · exact ⟨rfl, rfl, h.setCurrentPath _⟩
        · exact Outcome.alike_still h _

theorem alike_mkdir (h : fs.state.Alike fs'.state) (args : List String) :
    (mkdir.run now args fs).Alike (mkdir.run now' args fs') := by
  cases args with
  | nil => exact Outcome.alike_still h _
  | cons dir args =>
    simp only [mkdir, resolve_eq h]
    exact Outcome.alike_ofChange h (h.createDirectory now now' _) _

theorem alike_touch (h : fs.state.Alike fs'.state) (args : List String) :
    (touch.run now args fs).Alike (touch.run now' args fs') := by
  cases args with
  | nil => exact Outcome.alike_still h _
  | cons file args =>
    simp only [touch, resolve_eq h]
    exact Outcome.alike_ofChange h (h.createFile now now' _ "") _

theorem alike_rm (h : fs.state.Alike fs'.state) (args : List String) :
    (rm.run now args fs).Alike (rm.run now' args fs') := by
  cases args with
  | nil => exact Outcome.alike_still h _
  | cons target args =>
    simp only [rm, resolve_eq h]
    exact Outcome.alike_ofChange h (h.delete now now' _) _

theorem alike_echo (h : fs.state.Alike fs'.state) (args : List String) :
    (echo.run now args fs).Alike (echo.run now' args fs') := by
  simp only [echo, resolve_eq h, FileSystem.node?, h.isSome_node?]
  split
  · exact Outcome.alike_still h _
  · rename_i r _
    by_cases hTaken : (fs'.state.node? (fs'.resolve r.file)).isSome = true
    · simp only [hTaken, if_true]
      exact Outcome.alike_ofChange h (h.write now now' _ _) _
    · simp only [hTaken]
      exact Outcome.alike_ofChange h (h.createFile now now' _ _) _

theorem alike_of_changing {c : Command} (hc : c ∈ changing) (h : fs.state.Alike fs'.state)
    (args : List String) : (c.run now args fs).Alike (c.run now' args fs') := by
  simp only [changing, List.mem_cons, List.not_mem_nil, or_false] at hc
  rcases hc with rfl | rfl | rfl | rfl | rfl
  · exact alike_cd h args
  · exact alike_mkdir h args
  · exact alike_touch h args
  · exact alike_rm h args
  · exact alike_echo h args

/-! ## Commands that look -/

theorem map_listingLine_timeless (nodes : List Node) :
    (nodes.map Node.timeless).map listingLine = nodes.map listingLine := by
  have hLine : listingLine ∘ Node.timeless = listingLine := by
    funext n
    simp [listingLine, Node.timeless]
  rw [List.map_map, hLine]

theorem alike_listing (h : fs.state.Alike fs'.state) (target refusal : String) :
    (match fs.list target with
      | .ok nodes => Outcome.still fs (.say ("\n".intercalate (nodes.map listingLine)))
      | .error _ => Outcome.still fs (.refuse refusal)).Alike
    (match fs'.list target with
      | .ok nodes => Outcome.still fs' (.say ("\n".intercalate (nodes.map listingLine)))
      | .error _ => Outcome.still fs' (.refuse refusal)) := by
  simp only [FileSystem.list]
  rcases cases_of_map_eq (h.list target) with
    ⟨f, hHere, hThere⟩ | ⟨nodes, nodes', hHere, hThere, hNodes⟩
  · simp only [hHere, hThere]
    exact Outcome.alike_still h _
  · -- A line of a listing shows the kind and the name of a node, and no instant.
    have hLines : nodes.map listingLine = nodes'.map listingLine := by
      rw [← map_listingLine_timeless nodes, hNodes, map_listingLine_timeless]
    simp only [hHere, hThere, hLines]
    exact Outcome.alike_still h _

theorem alike_ls (h : fs.state.Alike fs'.state) (args : List String) :
    (ls.run now args fs).Alike (ls.run now' args fs') := by
  cases args with
  | nil =>
    have hPath : fs.currentPath = fs'.currentPath := h.currentPath_eq
    simp only [ls, List.head?_nil, hPath]
    exact alike_listing h _ _
  | cons arg args =>
    simp only [ls, List.head?_cons, resolve_eq h]
    exact alike_listing h _ _

theorem alike_cat (h : fs.state.Alike fs'.state) (args : List String) :
    (cat.run now args fs).Alike (cat.run now' args fs') := by
  cases args with
  | nil => exact Outcome.alike_still h _
  | cons file args =>
    simp only [cat, resolve_eq h, FileSystem.read, h.read_eq]
    split <;> exact Outcome.alike_still h _

theorem alike_grep (h : fs.state.Alike fs'.state) (args : List String) :
    (grep.run now args fs).Alike (grep.run now' args fs') := by
  simp only [grep, resolve_eq h, FileSystem.read, h.read_eq]
  split
  · split
    · exact Outcome.alike_still h _
    · split <;> exact Outcome.alike_still h _
  · exact Outcome.alike_still h _

theorem alike_openFile (h : fs.state.Alike fs'.state) (args : List String) :
    (openFile.run now args fs).Alike (openFile.run now' args fs') := by
  cases args with
  | nil => exact Outcome.alike_still h _
  | cons file args =>
    simp only [openFile, resolve_eq h, FileSystem.read, h.read_eq]
    split
    · exact Outcome.alike_still h _
    · split
      · exact Outcome.alike_still h _
      · exact ⟨rfl, rfl, h⟩

theorem alike_of_looking {c : Command} (hc : c ∈ looking) (h : fs.state.Alike fs'.state)
    (args : List String) : (c.run now args fs).Alike (c.run now' args fs') := by
  simp only [looking, List.mem_cons, List.not_mem_nil, or_false] at hc
  rcases hc with rfl | rfl | rfl | rfl | rfl | rfl | rfl | rfl
  · exact Outcome.alike_still h _
  · exact ⟨rfl, rfl, h⟩
  · have hPath : fs.currentPath = fs'.currentPath := h.currentPath_eq
    simp only [pwd, hPath]
    exact Outcome.alike_still h _
  · exact alike_ls h args
  · exact alike_cat h args
  · exact alike_grep h args
  · exact alike_openFile h args
  · exact ⟨rfl, rfl, h⟩

end Command

/-- **Commands** run in alike states print and ask the same, and leave alike states. -/
theorem Command.alike_run {c : Command} (hc : c ∈ Registry.standard.commands)
    {fs fs' : FileSystem} (h : fs.state.Alike fs'.state) (now now' : Instant) (args : List String) :
    (c.run now args fs).Alike (c.run now' args fs') := by
  rcases Registry.mem_standard hc with hChanging | hLooking
  · exact alike_of_changing hChanging h args
  · exact alike_of_looking hLooking h args

end TreeShell
