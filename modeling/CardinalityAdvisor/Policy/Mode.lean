import CardinalityAdvisor.Text.Blank

/-!
# Optimization modes

The optimization mode is set for the whole server. It decides how new query classes are handled
and how far the stored flags of known classes are followed.

## Main definitions

* `Mode`: the six modes
* `Mode.name`: the word by which a mode is set
* `Mode.ofName?`: the mode that a word denotes, in any case and with blanks around it

## Main results

* `Mode.ofName?_name`: every mode is denoted by its name
-/

namespace CardinalityAdvisor

/-- The optimization modes. -/
inductive Mode where
  /-- Nothing is learned and nothing is predicted. -/
  | disabled
  /-- New classes are learned in a space of their own and tuned before predictions are used. -/
  | intelligent
  /-- New classes are learned and predicted in the space that all of them share. -/
  | forced
  /-- Only classes that are stored already take part. -/
  | controlled
  /-- New classes are learned and predicted in a space of their own. -/
  | learn
  /-- Stored classes are predicted, but nothing is learned any more. -/
  | frozen
  deriving DecidableEq, Repr

namespace Mode

/-- All modes. -/
def all : List Mode := [.disabled, .intelligent, .forced, .controlled, .learn, .frozen]

/-- The word by which a mode is set. -/
def name : Mode → String
  | .disabled => "disabled"
  | .intelligent => "intelligent"
  | .forced => "forced"
  | .controlled => "controlled"
  | .learn => "learn"
  | .frozen => "frozen"

/-- The word with a capital letter in front. -/
def title (m : Mode) : String := m.name.capitalize

/-- The mode that a word denotes. The case of the letters and blanks at both ends do not matter. -/
def ofName? (word : String) : Option Mode :=
  let plain := Text.foldCase (Text.strip word)
  all.find? fun m => m.name == plain

/-- Every mode is denoted by its name. -/
theorem ofName?_name (m : Mode) : ofName? m.name = some m := by
  cases m <;> decide +kernel

end Mode

end CardinalityAdvisor
