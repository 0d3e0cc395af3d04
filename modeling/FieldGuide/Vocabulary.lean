set_option autoImplicit false

/-!
# Words for examples

The words, domains and suffixes of which example texts are made.
-/

namespace FieldGuide

/-- The words, in the order in which they are drawn. -/
def words : List String :=
  ["alias", "consequatur", "aut", "perferendis", "sit", "voluptatem", "accusantium",
   "doloremque", "aperiam", "eaque", "ipsa", "quae", "ab", "illo", "inventore", "veritatis",
   "et", "quasi", "architecto", "beatae", "vitae", "dicta", "sunt", "explicabo", "aspernatur",
   "odit", "fugit", "sed", "quia", "consequuntur", "magni", "dolores", "eos", "qui", "ratione",
   "sequi", "nesciunt", "neque", "dolorem", "ipsum", "dolor", "amet", "consectetur", "adipisci",
   "velit", "numquam", "eius", "modi", "tempora", "incidunt", "ut", "labore", "dolore", "magnam",
   "aliquam", "quaerat", "enim", "minima", "veniam", "quis", "nostrum", "exercitationem",
   "ullam", "corporis", "nemo", "ipsam", "voluptas", "omnis", "iste", "natus", "error",
   "similique", "rerum", "facilis", "expedita", "distinctio", "nam", "libero", "tempore", "cum",
   "soluta", "nobis", "eligendi", "optio", "cumque", "nihil", "impedit", "quo", "porro",
   "quisquam", "est", "minus", "id", "quod", "maxime", "placeat", "facere", "possimus"]

/-- Domains that are reserved for examples. -/
def safeDomains : List String := ["example.com", "example.org", "example.net"]

/-- The last parts of host names. -/
def hostSuffixes : List String := ["com", "org", "net", "info", "biz", "io"]

end FieldGuide
