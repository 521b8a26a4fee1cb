/-! # Contributions

A binding makes one object available, or it contributes to a collection: an element of a set or a
map, all elements of a set at once, or the collection itself. -/

namespace BindingPlan

/-- What a binding contributes. -/
inductive Contribution where
  | single
  | setElement
  | mapEntry
  | setElements
  | collection
  deriving DecidableEq

namespace Contribution

/-- All contributions. -/
def all : List Contribution :=
  [.single, .setElement, .mapEntry, .setElements, .collection]

/-- The word for a contribution, as the argument of a marker names it. -/
def word : Contribution → String
  | .single => "INSTANCE"
  | .setElement => "SET"
  | .mapEntry => "MAP"
  | .setElements => "SET_VALUES"
  | .collection => "MULTIBINDING_CONTAINER"

/-- The contribution that a word stands for. -/
def ofWord? (word : String) : Option Contribution :=
  all.find? (·.word == word)

/-- Whether only a factory function can make the contribution. -/
def needsFactory : Contribution → Bool
  | .setElements | .collection => true
  | .single | .setElement | .mapEntry => false

theorem ofWord?_word (contribution : Contribution) :
    ofWord? contribution.word = some contribution := by
  cases contribution <;> decide

theorem ofWord?_eq_some_iff {word : String} {contribution : Contribution} :
    ofWord? word = some contribution ↔ contribution.word = word := by
  constructor
  · intro h
    simpa using List.find?_some h
  · rintro rfl
    exact ofWord?_word contribution

end Contribution

end BindingPlan
