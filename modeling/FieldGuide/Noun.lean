set_option autoImplicit false

/-!
# Singular nouns

The singular of an English plural, for the names of tables.  Irregular plurals and nouns without a
plural are listed; for all others the ending decides.  Of a name with underscores only the last
part changes.
-/

namespace FieldGuide.Noun

/-- Plurals that follow no rule, with their singulars. -/
def irregular : List (String × String) :=
  [("analyses", "analysis"), ("axes", "axis"), ("bases", "basis"), ("cacti", "cactus"),
   ("children", "child"), ("crises", "crisis"), ("criteria", "criterion"),
   ("curricula", "curriculum"), ("data", "datum"), ("diagnoses", "diagnosis"), ("dice", "die"),
   ("ellipses", "ellipsis"), ("feet", "foot"), ("foci", "focus"), ("formulae", "formula"),
   ("fungi", "fungus"), ("geese", "goose"), ("genera", "genus"), ("hypotheses", "hypothesis"),
   ("indices", "index"), ("larvae", "larva"), ("lice", "louse"), ("matrices", "matrix"),
   ("media", "medium"), ("memoranda", "memorandum"), ("men", "man"), ("mice", "mouse"),
   ("nebulae", "nebula"), ("nuclei", "nucleus"), ("oases", "oasis"), ("octopi", "octopus"),
   ("oxen", "ox"), ("parentheses", "parenthesis"), ("people", "person"),
   ("phenomena", "phenomenon"), ("radii", "radius"), ("stimuli", "stimulus"),
   ("strata", "stratum"), ("syllabi", "syllabus"), ("synopses", "synopsis"), ("teeth", "tooth"),
   ("theses", "thesis"), ("vertebrae", "vertebra"), ("vertices", "vertex"), ("women", "woman")]

/-- Nouns that are alike in both numbers. -/
def unchanging : List String :=
  ["aircraft", "bison", "buffalo", "deer", "equipment", "fish", "furniture", "information",
   "machinery", "moose", "news", "rice", "salmon", "series", "sheep", "shrimp", "software",
   "species", "swine", "trout", "tuna"]

/-- Plurals in `ies` whose singular ends in `ie`. -/
def keepingIe : List String :=
  ["aeries", "aggies", "angies", "annelies", "annies", "archies", "arties", "aspies", "aunties",
   "aussies", "baddies", "bakkies", "barbies", "beanies", "beasties", "belies", "benzies",
   "bernies", "besties", "biggies", "bikies", "birdies", "blackies", "blankies", "blondies",
   "bogies", "bonnies", "boogies", "bookies", "boonies", "bowies", "bowties", "brasseries",
   "brookies", "brownies", "brummies", "budgies", "cabbies", "callies", "calories", "carnegies",
   "chappies", "charlies", "cheapies", "christies", "collies", "commies", "compagnies",
   "connies", "cookies", "coolies", "cooties", "corries", "coteries", "cowries", "creampies",
   "curies", "cuties", "darkies", "dearies", "debbies", "dickies", "dies", "dixies", "dobies",
   "doobies", "dorries", "druggies", "eddies", "ellies", "eries", "eyries", "facies", "faeries",
   "fixies", "folies", "foodies", "footsies", "frankies", "freddies", "freebies", "frenchies",
   "freshies", "galeries", "genies", "geordies", "ghillies", "gillespies", "goalies", "goldies",
   "goonies", "gracies", "grotesqueries", "groupies", "guthries", "hedgies", "hickies",
   "hippies", "hoagies", "hokies", "homies", "hoochies", "hoodies", "horsies", "hotties",
   "howies", "indies", "innies", "jackies", "jamies", "jessies", "jolies", "junkies", "juvies",
   "katies", "kelpies", "kiddies", "kilocalories", "koozies", "kyries", "lackies", "laddies",
   "lassies", "leslies", "lezzies", "lies", "lingeries", "lizzies", "logies", "loosies",
   "lories", "lovies", "luvvies", "mackenzies", "mackies", "maggies", "magpies", "mckenzies",
   "mcvities", "meanies", "menageries", "menzies", "millies", "minnies", "monnaies", "moonies",
   "mounties", "movies", "mozzies", "munchies", "neckties", "newbies", "noogies", "normies",
   "nudies", "okies", "oldies", "ollies", "onesies", "onsies", "oopsies", "opies", "outies",
   "patisseries", "pies", "pixies", "plushies", "posties", "prairies", "preemies", "premies",
   "pressies", "quickies", "razzies", "recipies", "reggies", "rennies", "reveries", "richies",
   "ritchies", "roadies", "robbies", "rollies", "ronnies", "roofies", "rookies", "rosies",
   "rotties", "ruskies", "sadies", "sarnies", "schoolies", "screenies", "scrunchies", "selfies",
   "selkies", "series", "sharpies", "shelfies", "shelties", "sickies", "smallies", "smilies",
   "smoothies", "snuggies", "softies", "sophies", "sorties", "species", "squaddies", "stevies",
   "stogies", "stoolies", "stymies", "sweeties", "talkies", "techies", "ties", "toonies",
   "tootsies", "toughies", "townies", "trackies", "tradies", "trekkies", "truckies", "twinkies",
   "underlies", "undies", "unnies", "unties", "valkyries", "veggies", "vegies", "vies",
   "walkies", "wedgies", "weenies", "westies", "wheelies", "whoopsies", "wies", "willies",
   "wookies", "yardies", "yippies", "yorkies", "yuppies", "zombies"]

/-- A text without its last `n` characters. -/
def dropLast (n : Nat) (cs : List Char) : List Char := cs.take (cs.length - n)

/-- A text ends in another one, and starts with something else. -/
def endsIn (ending : String) (cs : List Char) : Bool :=
  ending.toList.isSuffixOf cs && ending.toList.length < cs.length

/-- The singular of a plural in `ies`: a consonant before it asks for `y`. -/
def ofIes? (cs : List Char) : Option (List Char) :=
  if !endsIn "ies" cs then none
  else if keepingIe.contains (String.ofList cs) then some (dropLast 1 cs)
  else
    match (dropLast 3 cs).getLast? with
    | some c => if ['a', 'e', 'o', 'u'].contains c then none else some (dropLast 3 cs ++ ['y'])
    | none => none

/-- The singular of a plural in `ves`. -/
def ofVes? (cs : List Char) : Option (List Char) :=
  if !endsIn "ves" cs then none
  else
    let stem := dropLast 3 cs
    if ["kni", "wi", "li"].contains (String.ofList stem) then some (stem ++ ['f', 'e'])
    else some (stem ++ ['f'])

/-- The singular of a plural in `es` whose stem asks for the `e`. -/
def ofEs? (cs : List Char) : Option (List Char) :=
  if !endsIn "es" cs then none
  else
    let stem := dropLast 2 cs
    if "zz".toList.isSuffixOf stem then some (dropLast 1 stem)
    else if ["s", "x", "z", "ch", "sh", "o"].any (·.toList.isSuffixOf stem) then some stem
    else none

/-- The singular of a plural in `s`. -/
def ofS? (cs : List Char) : Option (List Char) :=
  if endsIn "s" cs && !"ss".toList.isSuffixOf cs then some (dropLast 1 cs) else none

/-- The singular of one word. -/
def singularWord (word : String) : String :=
  match irregular.lookup word with
  | some singular => singular
  | none =>
    if unchanging.contains word then word
    else
      let cs := word.toList
      match ofIes? cs <|> ofVes? cs <|> ofEs? cs <|> ofS? cs with
      | some singular => String.ofList singular
      | none => word

/-- The singular of a name: its part behind the last underscore is put into the singular. -/
def singular (name : String) : String :=
  let last := (name.toList.reverse.takeWhile (· ≠ '_')).reverse
  String.ofList (dropLast last.length name.toList) ++ singularWord (String.ofList last)

end FieldGuide.Noun
