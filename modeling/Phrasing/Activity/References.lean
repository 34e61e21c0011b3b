import Phrasing.Activity.Basic
import Phrasing.Reference

/-!
# References in activities

References are looked for, and filled in, in three parts of an activity: its text, its speech, and the
text and display text of every suggested action.  `references` lists the distinct references of all
parts in the order in which they are first seen; `fill` fills them in from a table and leaves every other
field alone.  The actions of an activity are its own, so each is filled in once.
-/

namespace Phrasing

/-- The parts of an activity that may hold references. -/
inductive Part where
  | text
  | speech
  | actions
  deriving DecidableEq, Repr

/-- All parts in the order they are looked through. -/
def Part.all : List Part := [.text, .speech, .actions]

/-- A list without repeats, in the order of first occurrences. -/
def distinct : List String → List String
  | [] => []
  | s :: rest => s :: (distinct rest).filter (· ≠ s)

namespace Reference

/-- The names in a text that may be absent. -/
def namesIn (text : Option String) : List String :=
  (text.map names).getD []

end Reference

namespace CardAction

/-- The references of an action, those of its text first. -/
def references (a : CardAction) : List String :=
  Reference.namesIn a.text ++ Reference.namesIn a.displayText

/-- Fills in the references of an action. -/
def fill (table : Reference.Table) (a : CardAction) : CardAction :=
  { a with
    text := a.text.map (Reference.fill table)
    displayText := a.displayText.map (Reference.fill table) }

end CardAction

/-- Fills in the references of all suggested actions. -/
def SuggestedActions.fill (table : Reference.Table) (s : SuggestedActions) : SuggestedActions :=
  { s with actions := s.actions.map (·.fill table) }

namespace Activity

/-- The references in a part of an activity, repeats included. -/
def referencesIn (a : Activity) : Part → List String
  | .text => Reference.namesIn a.text
  | .speech => Reference.namesIn a.speak
  | .actions => a.actions.flatMap (·.references)

/-- The distinct references of an activity. -/
def references (a : Activity) : List String :=
  distinct (Part.all.flatMap a.referencesIn)

/-- Fills in the references in a part of an activity. -/
def fillPart (table : Reference.Table) (a : Activity) : Part → Activity
  | .text => { a with text := a.text.map (Reference.fill table) }
  | .speech => { a with speak := a.speak.map (Reference.fill table) }
  | .actions => { a with suggestedActions := a.suggestedActions.map (·.fill table) }

/-- Fills in the references of an activity. -/
def fill (table : Reference.Table) (a : Activity) : Activity :=
  Part.all.foldl (fillPart table) a

end Activity

end Phrasing
