import EntityClasses.Inflection.Plural

/-!
# English singulars

Singular of a lower-case word: uncountable words stay, irregular words come from the plurals' list
read backwards, the first ending rule that applies decides, and without one the word stays.
-/
namespace EntityClasses.Inflection

open Pattern

def irregularSingulars : List (String × String) :=
  irregularPlurals.map Prod.swap ++ [("boxes", "box")]

/-- The singular rules in the order in which they are tried. -/
def singularRules : List Rule :=
  [⟨.ending, [ofText "database"], [ofText "s"], ""⟩,
   ⟨.ending, [ofText "quiz"], [ofText "zes"], ""⟩,
   ⟨.ending, [ofText "matr"], [ofText "ices"], "ix"⟩,
   ⟨.ending, [ofText "vert", ofText "ind"], [ofText "ices"], "ex"⟩,
   ⟨.opening, [ofText "ox"], [ofText "en"], ""⟩,
   ⟨.ending, [ofText "alias", ofText "status"], [ofText "es", []], ""⟩,
   ⟨.ending, [ofText "octop", ofText "vir"], [ofText "us", ofText "i"], "us"⟩,
   ⟨.whole, [ofText "a"], [ofText "xis", ofText "xes"], "xis"⟩,
   ⟨.ending, [ofText "cris", ofText "test"], [ofText "is", ofText "es"], "is"⟩,
   ⟨.ending, [ofText "shoe"], [ofText "s"], ""⟩,
   ⟨.ending, [ofText "bus"], [ofText "es", []], ""⟩,
   ⟨.ending, [ofText "m", ofText "l"], [ofText "ice"], "ouse"⟩,
   ⟨.run, ["x", "ch", "ss", "sh"].map ofText, [ofText "es"], ""⟩,
   ⟨.ending, [ofText "m"], [ofText "ovies"], "ovie"⟩,
   ⟨.ending, [ofText "s"], [ofText "eries"], "eries"⟩,
   ⟨.run, [noneOf "aeiouy", ofText "qu"], [ofText "ies"], "y"⟩,
   ⟨.run, [[]], [oneOf "lr" ++ ofText "ves"], "f"⟩,
   ⟨.run, [[]], [ofText "tives"], ""⟩,
   ⟨.run, [[]], [ofText "hives"], ""⟩,
   ⟨.run, [[]], [noneOf "f" ++ ofText "ves"], "fe"⟩,
   ⟨.whole, [ofText "analy"], [ofText "sis", ofText "ses"], "sis"⟩,
   ⟨.ending, ["analy", "ba", "diagno", "parenthe", "progno", "synop", "the"].map ofText,
    [ofText "sis", ofText "ses"], "sis"⟩,
   ⟨.run, [[]], [oneOf "ti" ++ ofText "a"], "um"⟩,
   ⟨.run, [[]], [ofText "oes"], ""⟩,
   ⟨.ending, [ofText "n"], [ofText "ews"], "ews"⟩,
   ⟨.run, [ofText "ss"], [[]], ""⟩,
   ⟨.run, [[]], [ofText "s"], ""⟩]

def singular (word : String) : String :=
  if word ∈ uncountable then word
  else
    match irregularSingulars.lookup word with
    | some s => s
    | none =>
      match singularRules.findSome? (·.answer? word.toList) with
      | some s => .ofList s
      | none => word

end EntityClasses.Inflection
