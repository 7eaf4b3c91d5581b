import Mathlib.Tactic.Common
import TreeShell.Proofs.Launch.Host

/-!
# What a level shows

A run does the same whatever its log is to show, and tells the same.  What the log shows is
what its filter lets through: under the name of a level, all that needs this level at most.
So a log that shows less is read off one that shows more.

## Layers

- `Filter.ofLevel`: the filter that the name of a level spells, in the environment or in the
  settings (`Filter.choose_asked`, `Filter.choose_level`), and what it shows
  (`Filter.shows_ofLevel`);
- `Invocation.told`: what a run tells; `run_logging`: a run with another filter is the same
  run, but for the log;
- `logged_asked`, `logged_level`: the log under a level;
- `logged_of_debug_le`, `logged_of_le`, `logged_off`: the log that leaves out nothing, the log
  under a lower level, and the one under none.
-/

namespace TreeShell.Log

/-! ## Filters of one level -/

/-- Whether an event needs a level at most. -/
def Event.within (l : Level) (e : Event) : Bool :=
  e.record.level.number ≤ l.number

theorem Event.within_of_le {l l' : Level} (hLevel : l.number ≤ l'.number) {e : Event}
    (h : e.within l = true) : e.within l' = true :=
  decide_eq_true (Nat.le_trans (of_decide_eq_true h) hLevel)

/-- No event is for a log that is off. -/
theorem Event.within_off (e : Event) : e.within .off = false := by
  cases e <;> rfl

/-- No event needs more than `debug`. -/
theorem Event.within_debug (e : Event) : e.within .debug = true := by
  cases e <;> rfl

namespace Filter

/-- The filter of a level in all. -/
def ofLevel (l : Level) : Filter where
  statics := [{ level := l }]
  dynamics := []

theorem parse?_name (l : Level) : parse? l.name = some (ofLevel l) := by
  cases l <;> decide +kernel

/-- A level that the environment asks for is the filter, whatever the settings say. -/
theorem choose_asked (l : Level) (level : String) : choose (some l.name) level = ofLevel l := by
  simp only [choose, Option.bind_some, parse?_name, Option.some_or, Option.getD_some]

/-- A level that the settings name is the filter when the environment asks for none. -/
theorem choose_level (l : Level) : choose none l.name = ofLevel l := by
  simp only [choose, Option.bind_none, Option.none_or, parse?_name, Option.getD_some]

theorem shows_ofLevel (l : Level) : (ofLevel l).shows = Event.within l := by
  funext e
  simp [shows, ofLevel, Directive.concerns, Event.within]

end Filter

end TreeShell.Log

namespace TreeShell.Launch

open TreeShell.Log

/-! ## Runs with another filter -/

/-- An invocation whose environment asks for another filter, or for none. -/
def Invocation.logging (i : Invocation) (asked : Option String) : Invocation :=
  { i with environment := { i.environment with logFilter := asked } }

/-- What a run tells, with the settings that it finds. -/
def Invocation.told (h : Host) (i : Invocation) : List Event :=
  match Request.ofArguments i.arguments with
  | .run o =>
    match settingsFor h i.environment o with
    | .error _ => []
    | .ok s => eventsWith h i o s
  | _ => []

variable {h : Host} {i : Invocation} {l l' : Level}

theorem settingsFor_logging (h : Host) (i : Invocation) (asked : Option String) (o : Options) :
    settingsFor h (i.logging asked).environment o = settingsFor h i.environment o := rfl

theorem told_eq {o : Options} {s : Settings}
    (hOptions : Request.ofArguments i.arguments = .run o)
    (hSettings : settingsFor h i.environment o = .ok s) : i.told h = eventsWith h i o s := by
  simp only [Invocation.told, hOptions, hSettings]

theorem told_logging (h : Host) (i : Invocation) (asked : Option String) :
    (i.logging asked).told h = i.told h := rfl

/-- **Another filter** makes no difference but in the log. -/
theorem run_logging (h : Host) (i : Invocation) (asked : Option String) :
    run h (i.logging asked) = { run h i with logged := (run h (i.logging asked)).logged } := by
  have hSame : (i.logging asked).arguments = i.arguments := rfl
  simp only [run, hSame, settingsFor_logging]
  split
  · rfl
  · rfl
  · rfl
  · split <;> rfl

/-! ## Logs -/

/-- A run works with options and settings, or tells nothing. -/
theorem run_works_or_silent (h : Host) (i : Invocation) :
    (∃ o s, run h i = runWith h i o s ∧ i.told h = eventsWith h i o s) ∨
      ((run h i).logged = [] ∧ i.told h = []) := by
  unfold Invocation.told run
  cases Request.ofArguments i.arguments with
  | help | version | misuse => exact .inr ⟨rfl, rfl⟩
  | run o =>
    cases hSettings : settingsFor h i.environment o with
    | error why => exact .inr ⟨by simp only [hSettings], by simp only [hSettings]⟩
    | ok s => exact .inl ⟨o, s, by simp only [hSettings], by simp only [hSettings]⟩

/-- What the log of a run shows is told by the run, in the same order. -/
theorem logged_sublist (h : Host) (i : Invocation) : (run h i).logged.Sublist (i.told h) := by
  rcases run_works_or_silent h i with ⟨o, s, hRun, hTold⟩ | ⟨hLogged, -⟩
  · rw [hRun, hTold]
    exact List.filter_sublist
  · rw [hLogged]
    exact List.nil_sublist _

theorem logged_runWith {o : Options} {s : Settings}
    (hFilter : Filter.choose i.environment.logFilter s.level = .ofLevel l) :
    (runWith h i o s).logged = (eventsWith h i o s).filter (Event.within l) := by
  have hLogged : (runWith h i o s).logged = (eventsWith h i o s).filter
      (Filter.choose i.environment.logFilter s.level).shows := rfl
  rw [hLogged, hFilter, Filter.shows_ofLevel]

/-- **The log under a level** that the environment asks for. -/
theorem logged_asked (h : Host) (i : Invocation) (l : Level) :
    (run h (i.logging (some l.name))).logged = (i.told h).filter (Event.within l) := by
  rw [← told_logging h i (some l.name)]
  rcases run_works_or_silent h (i.logging (some l.name)) with
    ⟨o, s, hRun, hTold⟩ | ⟨hLogged, hTold⟩
  · rw [hRun, hTold]
    exact logged_runWith (Filter.choose_asked l s.level)
  · rw [hLogged, hTold, List.filter_nil]

/-- **The log under a level** of the settings, when the environment asks for none. -/
theorem logged_level {o : Options} {s : Settings}
    (hOptions : Request.ofArguments i.arguments = .run o)
    (hSettings : settingsFor h i.environment o = .ok s)
    (hNone : i.environment.logFilter = none) (hLevel : s.level = l.name) :
    (run h i).logged = (i.told h).filter (Event.within l) := by
  rw [run_eq_runWith hOptions hSettings, told_eq hOptions hSettings]
  apply logged_runWith
  rw [hNone, hLevel, Filter.choose_level]

/-- From the level `debug` on, all that a run tells is shown. -/
theorem logged_of_debug_le (h : Host) (i : Invocation)
    (hLevel : Level.debug.number ≤ l.number) :
    (run h (i.logging (some l.name))).logged = i.told h := by
  rw [logged_asked, List.filter_eq_self]
  intro e _
  exact Event.within_of_le hLevel e.within_debug

/-- **A lower level** shows of the log under a higher one what it lets through itself. -/
theorem logged_of_le (h : Host) (i : Invocation) (hLevel : l.number ≤ l'.number) :
    (run h (i.logging (some l.name))).logged
      = (run h (i.logging (some l'.name))).logged.filter (Event.within l) := by
  rw [logged_asked, logged_asked, List.filter_filter]
  apply List.filter_congr
  intro e _
  cases hWithin : e.within l with
  | false => rfl
  | true => rw [Event.within_of_le hLevel hWithin, Bool.true_and]

/-- Nothing is shown when the log is off. -/
theorem logged_off (h : Host) (i : Invocation) : (run h (i.logging (some "off"))).logged = [] := by
  have hOff : (run h (i.logging (some "off"))).logged = (i.told h).filter (Event.within .off) :=
    logged_asked h i .off
  rw [hOff, List.filter_eq_nil_iff]
  intro e _
  rw [Event.within_off]
  exact Bool.false_ne_true

end TreeShell.Launch
