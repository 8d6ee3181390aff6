import PageRoutes.Script.Literal

/-!
# Forms with blanks

A generated script is a form with blanks: most of its text is the same for every project, and each
text of a user stands in a literal of its own. `Form.read` reads a script along a form. It compares
the fixed parts character by character, reads a literal in each blank, and says what the literals
denote.

A script that is read along a form has nothing of a user outside the literals, so what `Form.read`
says about all texts of a user at once is that none of them leaves its literal.

`Form.IsFilled` says that a script fills a form with given texts, and that nothing behind the script
matters for that.
-/

namespace PageRoutes.Script

/-- The quotes in which a literal can stand. -/
inductive Quote where
  | single
  | double
deriving DecidableEq, Repr

/-- The character that opens and closes a literal. -/
def Quote.char : Quote → Char
  | single => '\''
  | double => '"'

/-- Between quotes of either kind an escaped text is read back, whatever follows. -/
theorem Quote.readLiteral_escape (quote : Quote) (s : String) (rest : List Char) :
    readLiteral quote.char ((escape s).toList ++ quote.char :: rest) = some (s.toList, rest) := by
  cases quote with
  | single => exact Script.readLiteral_escape (.inl rfl) s rest
  | double => exact Script.readLiteral_escape (.inr rfl) s rest

/-- A part of a form: a fixed text, or a blank for a literal in the given quotes. -/
inductive FormPart where
  | fixed (text : String)
  | blank (quote : Quote)
deriving DecidableEq, Repr

/-- The fixed texts and the blanks of a script, in their order. -/
abbrev Form := List FormPart

namespace Form

/-- Reads a script along a form: the texts that the literals in the blanks denote, and what
follows. -/
def read : Form → List Char → Option (List String × List Char)
  | [], script => some ([], script)
  | .fixed text :: form, script => (text.toList.isPrefixOf? script).bind (read form)
  | .blank _ :: _, [] => none
  | .blank quote :: form, c :: script =>
    if c = quote.char then
      (readLiteral quote.char script).bind fun (text, script) =>
        (read form script).map fun (texts, script) => (String.ofList text :: texts, script)
    else none

/-- A script fills a form with texts: along the form these texts are read, and the script ends
where the form ends, whatever follows. -/
def IsFilled (form : Form) (texts : List String) (script : String) : Prop :=
  ∀ rest, form.read (script.toList ++ rest) = some (texts, rest)

/-- Forms one behind the other, with a fixed text between any two. -/
def joined (separator : String) : List Form → Form
  | [] => []
  | [form] => form
  | form :: forms => form ++ .fixed separator :: joined separator forms

end Form

end PageRoutes.Script
