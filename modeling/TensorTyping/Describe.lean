/-!
# Descriptions of values

Messages and events show values by a short text: a choice by its title, a list in brackets, a
record by its name and fields. This module holds the two classes behind these texts.

* `Tagged` — types whose values are a finite choice of words.
* `Describe` — types whose values have a text.
-/

namespace TensorTyping

/-- A finite choice: every value, the word that data files use for it, and the title that messages
use for it. -/
class Tagged (α : Type) where
  all : List α
  tag : α → String
  title : α → String

namespace Tagged

/-- The value with the given word. -/
def ofTag? {α : Type} [Tagged α] (word : String) : Option α :=
  (all : List α).find? fun a => tag a == word

end Tagged

/-- Types whose values have a text in messages and events. -/
class Describe (α : Type) where
  describe : α → String

export Describe (describe)

/-- A choice is described by its title. -/
instance {α : Type} [Tagged α] : Describe α where
  describe := Tagged.title

instance : Describe Nat where
  describe n := n.repr

instance : Describe UInt32 where
  describe n := n.toNat.repr

/-- The elements in brackets, a comma and a blank between two of them. -/
instance {α : Type} [Describe α] : Describe (List α) where
  describe items := "[" ++ ", ".intercalate (items.map describe) ++ "]"

/-- The text of a record: its name, then its fields in braces. -/
def describeRecord (name : String) (fields : List (String × String)) : String :=
  name ++ " \x7b " ++ ", ".intercalate (fields.map fun f => f.1 ++ ": " ++ f.2) ++ " \x7d"

/-- The text of a tagged value: its title, then what it carries in parentheses. -/
def describeVariant (title content : String) : String :=
  title ++ "(" ++ content ++ ")"

end TensorTyping
