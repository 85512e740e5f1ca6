import Groundwork.Inflection.Ending
import Groundwork.Inflection.Snake

/-!
# Plurals

English plurals by rule: words without a plural stay as they are, some irregular words have theirs
listed, and for all others the first rule that applies decides, from the most special to the most
general. A word that no rule covers takes an `s`. Table names are plurals in snake case.
-/

namespace Groundwork.Inflection

/-! ## Words with their own plural -/

/-- The words that have no plural of their own. -/
def uncountable : List String :=
  [
    "accommodation", "adulthood", "advertising", "advice", "aggression", "aid", "air", "aircraft",
    "alcohol", "anger", "applause", "arithmetic", "assistance", "athletics", "bacon", "baggage",
    "beef", "biology", "blood", "botany", "bread", "butter", "carbon", "cardboard", "cash",
    "chalk", "chaos", "chess", "crossroads", "countryside", "dancing", "deer", "dignity", "dirt",
    "dust", "economics", "education", "electricity", "engineering", "enjoyment", "envy",
    "equipment", "ethics", "evidence", "evolution", "fame", "fiction", "flour", "flu", "food",
    "fuel", "fun", "furniture", "gallows", "garbage", "garlic", "genetics", "gold", "golf",
    "gossip", "grammar", "gratitude", "grief", "guilt", "gymnastics", "happiness", "hardware",
    "harm", "hate", "hatred", "health", "heat", "help", "homework", "honesty", "honey",
    "hospitality", "housework", "humour", "hunger", "hydrogen", "ice", "importance", "inflation",
    "information", "innocence", "iron", "irony", "jam", "jewelry", "judo", "karate", "knowledge",
    "lack", "laughter", "lava", "leather", "leisure", "lightning", "linguine", "linguini",
    "linguistics", "literature", "litter", "livestock", "logic", "loneliness", "luck", "luggage",
    "macaroni", "machinery", "magic", "management", "mankind", "marble", "mathematics",
    "mayonnaise", "measles", "methane", "milk", "money", "mud", "music", "mumps", "nature",
    "news", "nitrogen", "nonsense", "nurture", "nutrition", "obedience", "obesity", "oxygen",
    "pasta", "patience", "physics", "poetry", "pollution", "poverty", "pride", "psychology",
    "publicity", "punctuation", "quartz", "racism", "relaxation", "reliability", "research",
    "respect", "revenge", "rice", "rubbish", "rum", "safety", "scenery", "seafood", "seaside",
    "series", "shame", "sheep", "shopping", "sleep", "smoke", "smoking", "snow", "soap",
    "software", "soil", "spaghetti", "species", "steam", "stuff", "stupidity", "sunshine",
    "symmetry", "tennis", "thirst", "thunder", "timber", "traffic", "transportation", "trust",
    "underwear", "unemployment", "unity", "validity", "veal", "vegetation", "vegetarianism",
    "vengeance", "violence", "vitality", "warmth", "wealth", "weather", "welfare", "wheat",
    "wildlife", "wisdom", "yoga", "zinc", "zoology"]

/-- The words whose plural follows no rule. -/
def irregular : List (String × String) :=
  [("ox", "oxen"), ("man", "men"), ("woman", "women"), ("die", "dice"), ("yes", "yeses"),
    ("foot", "feet"), ("eave", "eaves"), ("goose", "geese"), ("tooth", "teeth"),
    ("quiz", "quizzes")]

/-! ## Rules -/

/-- The stems that are spelled like the words of a line. -/
def stemsOf (words : List String) : List Stem := words.map Stem.spelled

/-- The letters `a`, `e`, `i`, `o` and `u`. -/
def vowels : List Char := ['a', 'e', 'i', 'o', 'u']

/-- The rules, the one that is tried first standing first. -/
def endingRules : List EndingRule :=
  [ ⟨stemsOf ["eaux"], [""], ""⟩,
    ⟨stemsOf ["child"], ["ren", ""], "ren"⟩,
    ⟨stemsOf ["person", "people"], [""], "ople"⟩,
    ⟨stemsOf ["mice", "mouse", "lice", "louse"], [""], "ice"⟩,
    ⟨stemsOf ["matr", "cod", "mur", "sil", "vert", "ind", "append"], ["ix", "ex"], "ices"⟩,
    ⟨stemsOf ["x", "ch", "ss", "sh", "zz"], [""], "es"⟩,
    ⟨stemsOf ["xes", "ches", "sses", "shes", "zzes"], [""], ""⟩,
    ⟨[[.outside ['c', 'h'], .among ['i', 'e', 'o'], .among ['l', 'n']]], ["ey"], "ies"⟩,
    ⟨[.outside ('y' :: vowels)] :: stemsOf ["qu"], ["y"], "ies"⟩,
    ⟨stemsOf ["ar", "l", "ea", "eo", "oa", "hoo"], ["f"], "ves"⟩,
    ⟨stemsOf ["kni", "wi", "li"], ["fe"], "ves"⟩,
    ⟨[[]], ["sis"], "ses"⟩,
    ⟨stemsOf ["apheli", "hyperbat", "periheli", "asyndet", "noumen", "phenomen", "criteri", "organ",
      "prolegomen", "hedr", "automat"], ["a", "on"], "a"⟩,
    ⟨stemsOf ["agend", "addend", "millenni", "dat", "extrem", "bacteri", "desiderat", "strat",
      "candelabr", "errat", "ov", "symposi", "curricul", "automat", "quor"], ["a", "um"], "a"⟩,
    ⟨stemsOf ["her", "at", "gr"], ["o"], "oes"⟩,
    ⟨stemsOf ["seraph", "cherub"], ["im", ""], "im"⟩,
    ⟨stemsOf ["alumn", "alg", "vertebr"], ["a", "ae"], "ae"⟩,
    ⟨stemsOf ["alumn", "syllab", "octop", "vir", "radi", "nucle", "fung", "cact", "stimul",
      "termin", "bacill", "foc", "uter", "loc", "strat"], ["us", "i"], "i"⟩,
    ⟨[[.outside ['l'], .letter 'i', .letter 'a', .letter 's'],
      [.among vowels, .letter 'l', .letter 'a', .letter 's'],
      [.among ['e', 'm', 'j', 'z', 'r'], .letter 'a', .letter 's'],
      [.among ['i', 'u'], .letter 'a', .letter 'm']], [""], ""⟩,
    ⟨[[.letter 'e', .among ['m', 'n'], .letter 'u']], ["s", ""], "s"⟩,
    ⟨[.outside ['a', 'o', 'u'], .letter 'u', .letter 's']
      :: stemsOf ["alias", "tlas", "gas", "ris"], [""], "es"⟩,
    ⟨stemsOf ["ax", "test"], ["is"], "es"⟩,
    ⟨[[.outside vowels, .letter 'e', .letter 's', .letter 'e']], [""], ""⟩,
    ⟨[[]], ["s"], "s"⟩ ]

/-! ## The plural of a word -/

/-- The plural of a word. -/
def pluralChars (word : List Char) : List Char :=
  if uncountable.any (·.toList == word) then word
  else
    match irregular.find? (·.1.toList == word) with
    | some (_, plural) => plural.toList
    | none => (endingRules.findSome? (·.form? word)).getD (word ++ ['s'])

/-- The plural of a word. -/
def plural (word : String) : String := String.ofList (pluralChars word.toList)

/-- The name of the table that holds the entities of a type: the plural of its snake case. -/
def tableName (typeName : String) : String := plural (snake typeName)

@[simp] theorem toList_plural (word : String) : (plural word).toList = pluralChars word.toList :=
  String.toList_ofList

end Groundwork.Inflection
