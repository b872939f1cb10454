import HtmlTemplate.Text.Pieces

/-!
The settings of the compiler.
-/

namespace HtmlTemplate

structure Settings where
  /-- The character that stands for a directive while HTML is read. -/
  placeholder : String := String.singleton (Char.ofNat 0x1F42E)
  /-- The element that a template is read as the content of. -/
  fragmentContainer : String := "div"
  /-- Whether HTML elements have a namespace. -/
  namespaceHtmlElements : Bool := true
  /-- The element around a page of more than one top-level node. -/
  fragmentTag : String := "div"
  debugMode : Bool := false
  deriving DecidableEq, Repr

/-- The number of placeholders in a text; an empty placeholder stands for the configured one. -/
def Settings.count (settings : Settings) (text : List Char) (placeholder : Option String) : Nat :=
  let chosen :=
    match placeholder with
    | some p => if p.isEmpty then settings.placeholder else p
    | none => settings.placeholder
  Text.countOf chosen.toList text

end HtmlTemplate
