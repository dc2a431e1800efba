import Worksheet.CommandLine.Arguments

/-!
# What the words of a command line ask for

The words are gone through from left to right, and a word behind an option that takes a value
is that value, whatever it looks like.  If all words are understood, each option has the values
that the words give it, and no word has asked for help.
-/

namespace Worksheet.CommandLine

/-- The values that some words give an option, in their order. -/
def ValueOption.valuesIn (option : ValueOption) : List String → List String
  | [] => []
  | argument :: rest =>
      match ofArgument? argument with
      | none => option.valuesIn rest
      | some given =>
          match rest with
          | [] => []
          | value :: others =>
              if given = option then value :: option.valuesIn others else option.valuesIn others

/-- Is there a word that asks for help? -/
def asksForHelp : List String → Bool
  | [] => false
  | argument :: rest =>
      if argument = "-h" ∨ argument = "--help" then true
      else
        match ValueOption.ofArgument? argument with
        | none => asksForHelp rest
        | some _ =>
            match rest with
            | [] => false
            | _ :: others => asksForHelp others

/-- What arguments become when the options in some words are taken over. -/
structure Arguments.TakesOver (words : List String) (before after : Arguments) : Prop where
  noHelp : asksForHelp words = false
  edits : after.edits = before.edits ++ ValueOption.set.valuesIn words
  command : after.command = (ValueOption.command.valuesIn words).getLast?.or before.command
  output : after.output = (ValueOption.output.valuesIn words).getLast?.or before.output
  settings : after.settings = (ValueOption.settings.valuesIn words).getLast?.or before.settings

namespace Arguments

variable {before middle after : Arguments} {word value : String} {words others : List String}

/-- The last of some values counts, so an earlier one is as good as one from before. -/
theorem getLast?_cons_or (value : String) (values : List String) (given : Option String) :
    (value :: values).getLast?.or given = values.getLast?.or (some value) := by
  rw [List.getLast?_cons]
  cases values.getLast? <;> rfl

namespace TakesOver

theorem nil (arguments : Arguments) : TakesOver [] arguments arguments where
  noHelp := rfl
  edits := (List.append_nil _).symm
  command := rfl
  output := rfl
  settings := rfl

/-- A word that is no option with a value is passed over. -/
theorem pass (noHelp : ¬ (word = "-h" ∨ word = "--help"))
    (noOption : ValueOption.ofArgument? word = none) (rest : TakesOver words middle after)
    (edits : middle.edits = before.edits) (command : middle.command = before.command)
    (output : middle.output = before.output) (settings : middle.settings = before.settings) :
    TakesOver (word :: words) before after := by
  have values : ∀ option : ValueOption,
      option.valuesIn (word :: words) = option.valuesIn words := by
    intro option
    rw [ValueOption.valuesIn, noOption]
  constructor
  case noHelp =>
    unfold asksForHelp
    rw [if_neg noHelp, noOption]
    exact rest.noHelp
  case edits => rw [values, rest.edits, edits]
  case command => rw [values, rest.command, command]
  case output => rw [values, rest.output, output]
  case settings => rw [values, rest.settings, settings]

/-- An option takes over the word behind it. -/
theorem take (noHelp : ¬ (word = "-h" ∨ word = "--help")) {option : ValueOption}
    (found : ValueOption.ofArgument? word = some option)
    (rest : TakesOver others (option.assign value before) after) :
    TakesOver (word :: value :: others) before after := by
  have values : ∀ other : ValueOption, other.valuesIn (word :: value :: others) =
      if option = other then value :: other.valuesIn others else other.valuesIn others := by
    intro other
    rw [ValueOption.valuesIn, found]
  constructor
  case noHelp =>
    rw [asksForHelp, if_neg noHelp, found]
    exact rest.noHelp
  case edits =>
    rw [values, rest.edits]
    cases option <;> simp [ValueOption.assign]
  case command =>
    rw [values, rest.command]
    cases option <;> simp [ValueOption.assign, getLast?_cons_or]
  case output =>
    rw [values, rest.output]
    cases option <;> simp [ValueOption.assign, getLast?_cons_or]
  case settings =>
    rw [values, rest.settings]
    cases option <;> simp [ValueOption.assign, getLast?_cons_or]

end TakesOver

end Arguments

end Worksheet.CommandLine
