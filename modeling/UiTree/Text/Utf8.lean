/-!
# UTF-8 — texts as octets
-/

namespace UiTree.Text

/-- The text that octets spell, if they are well-formed. -/
def utf8? (octets : List UInt8) : Option String :=
  String.fromUTF8? ⟨octets.toArray⟩

end UiTree.Text
