import Mathlib.Tactic.Common
import TreeShell.Launch.Options

/-!
# A line among the options

Arguments that ask for a run of no line ask for the same run of a line when the line is given
before them: options are read one after the other, and none but `-c` looks at the line.

Main statement: `Request.ofArguments_line`.
-/

namespace TreeShell.Launch

namespace Options

/-- The options with a line to run. -/
def withLine (o : Options) (line : String) : Options :=
  { o with command := some line }

variable {o o' : Options} {value line : String} {s : Sign}

theorem setOnce_eq_some {old new : Option String} (h : setOnce old value = some new) :
    new.isSome = true := by
  unfold setOnce at h
  split at h
  · contradiction
  · obtain rfl := Option.some.inj h
    rfl

/-- An option that leaves no line to run found none, and would have left one alone. -/
theorem give_withLine (h : o.give value s = some o') (hNone : o'.command = none)
    (line : String) :
    o.command = none ∧ (o.withLine line).give value s = some (o'.withLine line) := by
  cases s with
  | command =>
    -- This option leaves a line.
    obtain ⟨new, hNew, hEq⟩ := Option.bind_eq_some_iff.1 h
    obtain rfl := Option.some.inj hEq
    have hSome : new.isSome = true := setOnce_eq_some hNew
    have hNew : new = none := hNone
    rw [hNew] at hSome
    contradiction
  | settingsFile | dataDirectory | level =>
    obtain ⟨new, hNew, hEq⟩ := Option.bind_eq_some_iff.1 h
    obtain rfl := Option.some.inj hEq
    exact ⟨hNone, by simp [give, withLine, hNew]⟩
  | ephemeral | reset | help | version => simp [give] at h

theorem switch_withLine (h : o.switch s = some o') (line : String) :
    o'.command = o.command ∧ (o.withLine line).switch s = some (o'.withLine line) := by
  cases s with
  | ephemeral | reset =>
    simp only [switch] at h
    split at h
    · contradiction
    · rename_i hUnset
      obtain rfl := Option.some.inj h
      exact ⟨rfl, if_neg hUnset⟩
  | command | settingsFile | dataDirectory | level | help | version => simp [switch] at h

end Options

/-! ## Steps -/

/-- How the step of an argument with a line to run goes with its step without one, as long as
no line comes of the arguments. -/
inductive Step.Beside (o : Options) (line : String) : Step → Step → Prop where
  | next {o' : Options} (hNone : o'.command = none → o.command = none) :
      Beside o line (.next o') (.next (o'.withLine line))
  | await (s : Sign) : Beside o line (.await o s) (.await (o.withLine line) s)
  | stop {r : Request} (hStop : ∀ o', r ≠ .run o') (other : Step) :
      Beside o line (.stop r) other
  /-- The argument gives a line itself. -/
  | line {o' : Options} (hSome : o'.command ≠ none) (other : Step) :
      Beside o line (.next o') other

theorem misuse_ne_run (why : Misuse) (o : Options) : Request.misuse why ≠ .run o := nofun

theorem help_ne_run (o : Options) : Request.help ≠ .run o := nofun

theorem version_ne_run (o : Options) : Request.version ≠ .run o := nofun

theorem beside_give (o : Options) (value line : String) (s : Sign) (why why' : Misuse) :
    Step.Beside o line (.ofOptions why (o.give value s))
      (.ofOptions why' ((o.withLine line).give value s)) := by
  cases hGive : o.give value s with
  | none => exact .stop (misuse_ne_run _) _
  | some o' =>
    by_cases hNone : o'.command = none
    · obtain ⟨hBefore, hWith⟩ := Options.give_withLine hGive hNone line
      rw [hWith]
      exact .next fun _ => hBefore
    · exact .line hNone _

theorem beside_switch (o : Options) (line : String) (s : Sign) (why why' : Misuse) :
    Step.Beside o line (.ofOptions why (o.switch s))
      (.ofOptions why' ((o.withLine line).switch s)) := by
  cases hSwitch : o.switch s with
  | none => exact .stop (misuse_ne_run _) _
  | some o' =>
    obtain ⟨hSame, hWith⟩ := Options.switch_withLine hSwitch line
    rw [hWith]
    exact .next fun hNone => hSame ▸ hNone

theorem beside_longStep (o : Options) (line name : String) (attached : Option String) :
    Step.Beside o line (longStep o name attached) (longStep (o.withLine line) name attached) := by
  unfold longStep
  cases Sign.named? name with
  | none => exact .stop (misuse_ne_run _) _
  | some s =>
    cases attached with
    | some value =>
      cases hTakes : s.takesValue with
      | true => simpa [hTakes] using beside_give o value line s _ _
      | false => simpa [hTakes] using .stop (misuse_ne_run _) _
    | none =>
      cases s with
      | help => exact .stop help_ne_run _
      | version => exact .stop version_ne_run _
      | command | settingsFile | dataDirectory | level => exact .await _
      | ephemeral | reset => exact beside_switch o line _ _ _

theorem beside_shortStep (o : Options) (line : String) (c : Char) (cs : List Char) :
    Step.Beside o line (shortStep o (c :: cs)) (shortStep (o.withLine line) (c :: cs)) := by
  simp only [shortStep]
  cases Sign.lettered? c with
  | none => exact .stop (misuse_ne_run _) _
  | some s =>
    have hLetter : Step.Beside o line
        (if cs.isEmpty then .await o s
          else .ofOptions (o.refusal s) (o.give (String.ofList (dropEquals cs)) s))
        (if cs.isEmpty then .await (o.withLine line) s
          else .ofOptions ((o.withLine line).refusal s)
            ((o.withLine line).give (String.ofList (dropEquals cs)) s)) := by
      split
      · exact .await s
      · exact beside_give o _ line s _ _
    cases s with
    | help => exact .stop help_ne_run _
    | version => exact .stop version_ne_run _
    | _ => exact hLetter

theorem beside_argumentStep (o : Options) (line arg : String) :
    Step.Beside o line (argumentStep o arg) (argumentStep (o.withLine line) arg) := by
  unfold argumentStep
  split
  · exact beside_longStep o line _ _
  · exact beside_shortStep o line _ _
  · exact .stop (misuse_ne_run _) _

/-! ## Arguments -/

/-- **Arguments** that ask for a run of no line ask for the same run of a line that was given
before. -/
theorem readArguments_withLine {o o' : Options} {awaited : Option Sign} {args : List String}
    (h : readArguments o awaited args = .run o') (hNone : o'.command = none) (line : String) :
    o.command = none ∧
      readArguments (o.withLine line) awaited args = .run (o'.withLine line) := by
  -- Argument by argument; one that gave a line would leave it to the end.
  induction args generalizing o awaited with
  | nil =>
    cases awaited with
    | none =>
      obtain rfl := Request.run.inj h
      exact ⟨hNone, rfl⟩
    | some s => contradiction
  | cons arg args ih =>
    cases awaited with
    | some s =>
      simp only [readArguments] at h ⊢
      split at h
      · rename_i hValue
        cases hGive : o.give arg s with
        | none => simp [hGive] at h
        | some next =>
          simp only [hGive] at h
          obtain ⟨hNext, hRest⟩ := ih h
          obtain ⟨hBefore, hWith⟩ := Options.give_withLine hGive hNext line
          refine ⟨hBefore, ?_⟩
          rw [if_pos hValue, hWith]
          exact hRest
      · contradiction
    | none =>
      simp only [readArguments] at h ⊢
      split at h
      · rename_i hDashes
        split at h
        · obtain rfl := Request.run.inj h
          exact ⟨hNone, by rw [if_pos hDashes]⟩
        · contradiction
      · rename_i hDashes
        rw [if_neg hDashes]
        have hStep := beside_argumentStep o line arg
        revert hStep h
        generalize argumentStep o arg = step
        generalize argumentStep (o.withLine line) arg = step'
        intro h hStep
        cases hStep with
        | next hBefore =>
          obtain ⟨hNext, hRest⟩ := ih h
          exact ⟨hBefore hNext, hRest⟩
        | await s => exact ih h
        | stop hStop => exact absurd h (hStop o')
        | line hSome => exact absurd (ih h).1 hSome

/-- A line that is not read as an option may be given before any arguments that ask for a run
of no line. -/
theorem Request.ofArguments_line {o : Options} {args : List String}
    (h : Request.ofArguments args = .run o) (hNone : o.command = none) {line : String}
    (hLine : isValue line = true) :
    Request.ofArguments ("-c" :: line :: args) = .run (o.withLine line) := by
  have hSign : argumentStep {} "-c" = .await {} .command := rfl
  have hDashes : "-c" ≠ "--" := by decide
  have hGive : Options.give {} line .command = some (Options.withLine {} line) := rfl
  simp only [Request.ofArguments, readArguments, if_neg hDashes, hSign, if_pos hLine, hGive]
  exact (readArguments_withLine h hNone line).2

end TreeShell.Launch
