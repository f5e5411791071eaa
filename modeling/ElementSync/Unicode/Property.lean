import ElementSync.Text.Split
import ElementSync.Unicode.Category
import ElementSync.Unicode.Script

/-!
# Properties of characters

Properties that a pattern may ask for by name. Case, blanks, hyphens, underscores
and a leading "is" do not count in names.
-/
namespace ElementSync.Unicode

/-- The alphabetic characters that are neither letters nor numbers. -/
def alphabeticMarks : List Run := decodeRuns
  ["N837YN618Y14NYNY2NY2NYN72Y11N48Y13NY7N16YN101Y7N4Y4N2Y2N4YN35YN30Y16N102Y11N101Y2N3Y9NY3NY4",
  "N167Y12N3Y7N6Y20N54Y2N2Y15NY2N5Y3N10Y2N29Y3N58Y7N2Y2N2Y2N10YN10Y2N29Y3N58Y5N4Y2N2Y2N4YN30Y2",
  "N3YN11Y3N58Y8NY3NY2N21Y2N22Y3N4Y3N58Y7N2Y2N2Y2N9Y2N10Y2N30YN59Y5N3Y3NY3N10YN40Y5N57Y7NY3NY3",
  "N8Y2N11Y2N29Y3N58Y7NY3NY3N8Y2N11Y2N15YN12Y4N58Y7NY3NY3N10YN10Y2N29Y3N75Y6NYNY8N18Y2N61YN2Y7",
  "N18YN99YN2Y6NY2N16YN163Y19N9Y11NY36N110Y12NYN2Y4N23Y4N4Y3NY3N2Y7N3Y4N13Y12NYN10Y4N1652Y2N30",
  "Y2N30Y2N30Y2N66Y19N188Y2N34YN118Y12N4Y9N222Y5N57Y10N2Y20N74Y2N11Y3N49Y5N48Y15N60Y3N30Y9N2Y2",
  "N57Y11N50Y19N432Y14N1729Y52N2294Y32N30836Y8N34Y2N354YN8YN23Y5N88Y2N50Y16NYN57YN38Y5N28Y12N45",
  "Y4N48Y12N37YN67Y14N12YN8Y2N45Y3N50YNY3N2Y2N5YN44Y5N5YN237Y8N20275YN2135Y5N1670Y3NY2N5Y4N788",
  "Y4N387Y2N339Y3N53Y14N45Y2N11Y3N45Y9N9YN61Y3N36Y12N18Y2N57Y3N48Y13N14Y2N92Y9N2YN6YN2YN157Y10",
  "N23Y4N58Y7N2Y2N2Y2N10YN10Y2N209Y13NY3N106Y18N237Y7N2Y7N29Y2N82Y15NYN106Y11N103Y14N257Y13N247",
  "Y6NY2N2Y2N3YNYN142Y7N2Y6N4YN28Y10N42Y5NY4N18Y11N46Y14N407Y8NY7N83Y22NY14N122Y6N3YNY2NY3NYN3Y",
  "N66Y5NY2NY4N348Y4N9Y2NYN48Y7N3Y3N20494YNY55N7Y4N93Y2N19628YN9057Y7NY17N2Y7NY2NY5N100YN2231Y",
  "N2024Y26N6Y26N6Y26"]

/-- The lowercase characters that are not lowercase letters. -/
def otherLowercase : List Run := decodeRuns
  ["N170YN15YN501Y9N7Y2N30Y5N96YN52YN3457YN3119Y63N13YN34Y37N689YN13YN16Y13N211Y16N848Y26N1938Y2",
  "N31262Y2N210YN129Y3N3Y2N866Y4N9YN23574YN2Y3NY42NY9N55413Y62"]

/-- The uppercase characters that are not uppercase letters. -/
def otherUppercase : List Run := decodeRuns
  ["N8544Y16N838Y26N117856Y26N6Y26N6Y26"]

/-- The characters with the property Emoji. -/
def emoji : List Run := decodeRuns
  ["N35YN6YN5Y10N111YN4YN8077YN12YN216YN22YN90Y6N15Y2N367Y2N12YN166YN25Y11N4Y3N199YN231Y2N10YN9Y",
  "N58Y4NY5N9YN2YN2Y2N2YN4YN2YNY2N2YN3YN3Y2N8Y3N5YNYN5Y12N11Y2N2YNY2NYN18YN2Y2N18Y6NYNY2N3Y2N5Y",
  "N2Y2N4Y2N11Y2N5Y2N2YN5Y2NYNY2N20Y2N5Y6NY4N2YN4YN2YN2Y6NYN2YNYNYN6YN3YN6YN10Y2N15YN2YN4YNYN4",
  "Y3NYN11Y2N48Y3N9YN14YN14YN372Y2N463Y3N19Y2N51YN4YN1242YN12YN601YNYN114026YN202YN160Y2N12Y2",
  "N14YN2Y10N75Y26NY2N23YN20YN2Y9N21Y2N174Y34N2Y112N2Y2NY3N2Y83N2Y3NY263NY63N11Y6NY24N7Y2N2Y8",
  "N12YN2Y4N2YN4Y2N13Y2N2YN8Y2N9YN5Y3N12Y3N8Y3N2YNYN4YN6YN3YN6Y86N48Y70N5Y8N2Y3N4Y10N3YNY2N3YN2",
  "Y10N227Y12N4YN283Y47NY10NY185N112Y13N3Y9N7Y46NY7N8Y14N4Y9N7Y9"]

/-- The characters with the property Dash. -/
def dashes : List Run := decodeRuns
  ["N45YN1372YN51YN3649YN1029YN2057Y6N61YN39YN15YN390YN3076YN2YN31Y2N4YN28YN446YN19YN111YN52624",
  "Y2N37YN10YN169YN3999Y"]

/-- The characters with the property Hex_Digit. -/
def hexDigits : List Run := decodeRuns
  ["N48Y10N7Y6N26Y6N65193Y10N7Y6N26Y6"]

/-- The characters with the property Math. -/
def mathematical : List Run := decodeRuns
  ["N43YN16Y3N31YN29YNYN45YN4YN37YN31YN728Y3N2YN26Y2N2Y3N527Y3N6669YN27Y3N11YN3YN13YN14Y4N21Y5",
  "N11Y5N65Y13N4YN3Y2N4Y5N18YN4YN2Y10NYN2Y6N6YN3Y2N2Y2NY3NY6N3Y14NYN68Y24NY6NY2N4Y2N4Y32NYN6Y2",
  "N14Y268N8Y4N20Y2N90YN30Y27NYN24YN11Y7N445Y2N12Y10N4Y6N4Y2N2Y2N3Y5N14YNYN2Y6N11Y8N5Y2N57YNY",
  "N29Y4N9Y3N336Y64N256Y512N48Y21N2Y6N53212YN823Y6NYN162YN16Y3N29YNYN29YNYN131YN6Y4N54291Y85N",
  "Y71NY2N2YN2Y2N2Y4NY12NYNY7NY65NY4N2Y8NY7NY28NY4NY5NYN3Y7NY340N2Y292N2Y50N5632Y4NY27NY2NYN2YN",
  "Y10NY4NYNYN6YN4YNYNYNY3NY2NYN2YNYNYNYNYNY2NYN2Y4NY7NY4NY4NYNY10NY17N5Y3NY5NY17N52Y2"]

/-- The characters with the property Ideographic. -/
def ideographic : List Run := decodeRuns
  ["N12294Y2N25Y9N14Y3N965Y6592N64Y20992N22784Y366N2Y106N29962YN27Y6136N8Y1238N42Y9N9319Y396",
  "N19716Y42720N32Y4154N6Y222N2Y5762N14Y7473N3103Y542N1506Y4939N5Y4192"]

def isMarked (runs : List Run) (c : Char) : Bool := valueAt? runs c = some "Y"

def isCategory (codes : List String) (c : Char) : Bool := codes.contains (category c)

def isAlphabetic (c : Char) : Bool :=
  isCategory ["Lu", "Ll", "Lt", "Lm", "Lo", "Nl"] c || isMarked alphabeticMarks c

def isLowercase (c : Char) : Bool := isCategory ["Ll"] c || isMarked otherLowercase c

def isUppercase (c : Char) : Bool := isCategory ["Lu"] c || isMarked otherUppercase c

def isDecimalDigit (c : Char) : Bool := isCategory ["Nd"] c

def isNumeric (c : Char) : Bool := isCategory ["Nd", "Nl", "No"] c

/-- Letters, marks, digits, connectors and the two characters that join letters. -/
def isWordChar (c : Char) : Bool :=
  isAlphabetic c || isCategory ["Mn", "Mc", "Me", "Nd", "Pc"] c || c.toNat = 0x200c
    || c.toNat = 0x200d

def normalizeName (name : String) : String :=
  let cs := name.toList
  let body := match cs with
    | i :: s :: rest => if i.toLower = 'i' && s.toLower = 's' then rest else cs
    | _ => cs
  let kept := body.filter fun c => c.toNat < 128 && !([' ', '_', '-'].contains c)
  let lower := String.ofList (kept.map Char.toLower)
  if body.length < cs.length && lower = "c" then "isc" else lower

def binaryProperties : List (List String × (Char → Bool)) :=
  [(["alpha", "alphabetic"], isAlphabetic), (["lower", "lowercase"], isLowercase),
   (["upper", "uppercase"], isUppercase), (["wspace", "whitespace", "space"], Text.isBlank),
   (["cased"], fun c => isLowercase c || isUppercase c || isCategory ["Lt"] c),
   (["ahex", "asciihexdigit"], fun c => c.toNat < 128 && isMarked hexDigits c),
   (["hex", "hexdigit"], isMarked hexDigits), (["emoji"], isMarked emoji),
   (["dash"], isMarked dashes), (["math"], isMarked mathematical),
   (["ideo", "ideographic"], isMarked ideographic),
   (["joinc", "joincontrol"], fun c => c.toNat = 0x200c || c.toNat = 0x200d)]

def categoryNamed? (name : String) : Option (Char → Bool) :=
  if name = "any" then some fun _ => true
  else if name = "assigned" then some fun c => !isCategory [unassigned] c
  else if name = "ascii" then some fun c => c.toNat < 128
  else (categoriesOf? name).map isCategory

def scriptNamed? (name : String) : Option (Char → Bool) :=
  (scriptOf? name).map fun code c => script c = code

/-- The property that one name stands for: a binary property before a category, and
a category before a script. -/
def property? (name : String) : Option (Char → Bool) :=
  let name := normalizeName name
  (binaryProperties.find? (·.1.contains name)).map (·.2) <|>
    categoryNamed? name <|> scriptNamed? name

def propertyValue? (name value : String) : Option (Char → Bool) :=
  let name := normalizeName name
  let value := normalizeName value
  if ["gc", "generalcategory"].contains name then categoryNamed? value
  else if ["sc", "script", "scx", "scriptextensions"].contains name then scriptNamed? value
  else none

end ElementSync.Unicode
