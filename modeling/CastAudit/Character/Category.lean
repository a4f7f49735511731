import CastAudit.Character.Letters
import CastAudit.Character.Marks
import CastAudit.Character.Script
import CastAudit.Character.Signs

/-!
# Named classes of characters

The general categories of Unicode, their groups and the scripts by their names. Capital letters, hyphens,
underscores and spaces in a name do not count.
-/

namespace CastAudit.Character

def letters : List Table := [lowercase, uppercase, otherLetter, modifierLetter, titlecase]

/-- The kinds of letters with a case. -/
def casedLetters : List Table := [lowercase, uppercase, titlecase]

def marks : List Table := [nonspacing, spacing, enclosing]

def numbers : List Table := [decimal, letterNumber, otherNumber]

def punctuation : List Table := [otherPunctuation, connector, dash, opening, closing, initialQuote, finalQuote]

/-- The kinds of signs. -/
def symbols : List Table := [otherSymbol, math, currency, modifierSymbol]

def separators : List Table := [space, lineSeparator, paragraphSeparator]

/-- The kinds of codes without a visible character, apart from those that nothing is assigned to. -/
def invisible : List Table := [control, format, surrogate, privateUse]

/-- The code belongs to one of some classes. -/
def holdsAny (tables : List Table) (code : Nat) : Bool := tables.any fun t => t.holds code

def isAssigned (code : Nat) : Bool :=
  holdsAny (letters ++ marks ++ numbers ++ punctuation ++ symbols ++ separators ++ invisible) code

/-- A character that can be seen on paper, or the space. -/
def isPrintable (code : Nat) : Bool :=
  code = 0x20 || holdsAny (letters ++ marks ++ numbers ++ punctuation ++ symbols) code

abbrev CharSet := Nat → Bool

/-- The categories by their short and long names. -/
def categories : List (String × CharSet) :=
  [("lu", uppercase.holds), ("uppercaseletter", uppercase.holds), ("ll", lowercase.holds),
   ("lowercaseletter", lowercase.holds), ("lt", titlecase.holds), ("titlecaseletter", titlecase.holds),
   ("lc", holdsAny casedLetters), ("casedletter", holdsAny casedLetters), ("lm", modifierLetter.holds),
   ("modifierletter", modifierLetter.holds), ("lo", otherLetter.holds), ("otherletter", otherLetter.holds),
   ("l", holdsAny letters), ("letter", holdsAny letters), ("mn", nonspacing.holds), ("nonspacingmark", nonspacing.holds),
   ("mc", spacing.holds), ("spacingmark", spacing.holds), ("me", enclosing.holds), ("enclosingmark", enclosing.holds),
   ("m", holdsAny marks), ("mark", holdsAny marks), ("combiningmark", holdsAny marks), ("nd", decimal.holds),
   ("decimalnumber", decimal.holds), ("digit", decimal.holds), ("nl", letterNumber.holds),
   ("letternumber", letterNumber.holds), ("no", otherNumber.holds), ("othernumber", otherNumber.holds),
   ("n", holdsAny numbers), ("number", holdsAny numbers), ("pc", connector.holds),
   ("connectorpunctuation", connector.holds), ("pd", dash.holds), ("dashpunctuation", dash.holds),
   ("ps", opening.holds), ("openpunctuation", opening.holds), ("pe", closing.holds),
   ("closepunctuation", closing.holds), ("pi", initialQuote.holds), ("initialpunctuation", initialQuote.holds),
   ("pf", finalQuote.holds), ("finalpunctuation", finalQuote.holds), ("po", otherPunctuation.holds),
   ("otherpunctuation", otherPunctuation.holds), ("p", holdsAny punctuation), ("punctuation", holdsAny punctuation),
   ("punct", holdsAny punctuation), ("sm", math.holds), ("mathsymbol", math.holds), ("sc", currency.holds),
   ("currencysymbol", currency.holds), ("sk", modifierSymbol.holds), ("modifiersymbol", modifierSymbol.holds),
   ("so", otherSymbol.holds), ("othersymbol", otherSymbol.holds), ("s", holdsAny symbols), ("symbol", holdsAny symbols),
   ("zs", space.holds), ("spaceseparator", space.holds), ("zl", lineSeparator.holds),
   ("lineseparator", lineSeparator.holds), ("zp", paragraphSeparator.holds),
   ("paragraphseparator", paragraphSeparator.holds), ("z", holdsAny separators), ("separator", holdsAny separators),
   ("cc", control.holds), ("control", control.holds), ("cntrl", control.holds), ("cf", format.holds),
   ("format", format.holds), ("cs", surrogate.holds), ("surrogate", surrogate.holds), ("co", privateUse.holds),
   ("privateuse", privateUse.holds), ("cn", fun c => !isAssigned c), ("unassigned", fun c => !isAssigned c),
   ("c", fun c => holdsAny invisible c || !isAssigned c), ("other", fun c => holdsAny invisible c || !isAssigned c),
   ("any", fun _ => true), ("assigned", isAssigned), ("ascii", fun c => c < 0x80)]

/-- A name in the form in which names are compared. -/
def plainName (name : Text) : Text :=
  Text.lower (name.filter fun b => !(b = Text.space || b = Text.dash || b = 0x5f))

def classOf? (name : Text) : Option CharSet :=
  let name := plainName name
  match categories.find? fun c => Text.ofString c.1 == name with
  | some c => some c.2
  | none => (scripts.find? fun s => Text.ofString s.1 == name).map fun s => isWithin s.2

end CastAudit.Character
