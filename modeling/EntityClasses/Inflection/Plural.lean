import EntityClasses.Inflection.Rule
import EntityClasses.Inflection.Uncountable

/-!
# English plurals

Plural of a lower-case word: uncountable words stay, irregular words come from a list, the first
ending rule that applies decides, and without one the word takes an `s`.
-/
namespace EntityClasses.Inflection

open Pattern

def irregularPlurals : List (String × String) :=
  [("ox", "oxen"), ("man", "men"), ("woman", "women"), ("die", "dice"), ("yes", "yeses"),
   ("foot", "feet"), ("eave", "eaves"), ("goose", "geese"), ("tooth", "teeth"),
   ("quiz", "quizzes")]

/-- The plural rules in the order in which they are tried. -/
def pluralRules : List Rule :=
  [⟨.run, [ofText "eaux"], [[]], ""⟩,
   ⟨.run, [ofText "child"], [ofText "ren", []], "ren"⟩,
   ⟨.run, [ofText "person", ofText "people"], [[]], "ople"⟩,
   ⟨.run, ["mice", "mouse", "lice", "louse"].map ofText, [[]], "ice"⟩,
   ⟨.run, ["matr", "cod", "mur", "sil", "vert", "ind", "append"].map ofText,
    [ofText "ix", ofText "ex"], "ices"⟩,
   ⟨.run, ["x", "ch", "ss", "sh", "zz"].map ofText, [[]], "es"⟩,
   ⟨.run, ["xes", "ches", "sses", "shes", "zzes"].map ofText, [[]], ""⟩,
   ⟨.run, [noneOf "ch" ++ oneOf "ieo" ++ oneOf "ln"], [ofText "ey"], "ies"⟩,
   ⟨.run, [noneOf "aeiouy", ofText "qu"], [ofText "y"], "ies"⟩,
   ⟨.run, ["ar", "l", "ea", "eo", "oa", "hoo"].map ofText, [ofText "f"], "ves"⟩,
   ⟨.run, ["kni", "wi", "li"].map ofText, [ofText "fe"], "ves"⟩,
   ⟨.run, [[]], [ofText "sis"], "ses"⟩,
   ⟨.run, ["apheli", "hyperbat", "periheli", "asyndet", "noumen", "phenomen", "criteri", "organ",
      "prolegomen", "hedr", "automat"].map ofText, [ofText "a", ofText "on"], "a"⟩,
   ⟨.run, ["agend", "addend", "millenni", "dat", "extrem", "bacteri", "desiderat", "strat",
      "candelabr", "errat", "ov", "symposi", "curricul", "automat", "quor"].map ofText,
    [ofText "a", ofText "um"], "a"⟩,
   ⟨.run, ["her", "at", "gr"].map ofText, [ofText "o"], "oes"⟩,
   ⟨.run, ["seraph", "cherub"].map ofText, [ofText "im", []], "im"⟩,
   ⟨.run, ["alumn", "alg", "vertebr"].map ofText, [ofText "a", ofText "ae"], "ae"⟩,
   ⟨.run, ["alumn", "syllab", "octop", "vir", "radi", "nucle", "fung", "cact", "stimul", "termin",
      "bacill", "foc", "uter", "loc", "strat"].map ofText, [ofText "us", ofText "i"], "i"⟩,
   ⟨.run, [noneOf "l" ++ ofText "ias", oneOf "aeiou" ++ ofText "las", oneOf "emjzr" ++ ofText "as",
      oneOf "iu" ++ ofText "am"], [[]], ""⟩,
   ⟨.run, [ofText "e" ++ oneOf "mn" ++ ofText "u"], [ofText "s", []], "s"⟩,
   ⟨.run, [ofText "alias", noneOf "aou" ++ ofText "us", ofText "tlas", ofText "gas", ofText "ris"],
    [[]], "es"⟩,
   ⟨.run, [ofText "ax", ofText "test"], [ofText "is"], "es"⟩,
   ⟨.run, [noneOf "aeiou" ++ ofText "ese"], [[]], ""⟩,
   ⟨.run, [[]], [ofText "s"], "s"⟩]

def plural (word : String) : String :=
  if word ∈ uncountable then word
  else
    match irregularPlurals.lookup word with
    | some p => p
    | none =>
      match pluralRules.findSome? (·.answer? word.toList) with
      | some s => .ofList s
      | none => word ++ "s"

end EntityClasses.Inflection
