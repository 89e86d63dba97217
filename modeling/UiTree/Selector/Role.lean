import UiTree.Text.Case

/-!
# Roles — friendly names for the tags that trees use
-/

namespace UiTree.Selector

open UiTree.Text

/-- Friendly names in order, each with its tag. -/
def roleAliases : List (String × String) :=
  [("application", "AXApplication"), ("button", "AXButton"), ("cell", "AXCell"),
   ("checkbox", "AXCheckBox"), ("colorwell", "AXColorWell"), ("combobox", "AXComboBox"),
   ("dialog", "AXSheet"), ("disclosure", "AXDisclosureTriangle"), ("drawer", "AXDrawer"),
   ("group", "AXGroup"), ("growarea", "AXGrowArea"), ("handle", "AXHandle"), ("image", "AXImage"),
   ("incrementor", "AXIncrementor"), ("input", "AXTextField"), ("layoutarea", "AXLayoutArea"),
   ("layoutitem", "AXLayoutItem"), ("levelindicator", "AXLevelIndicator"), ("link", "AXLink"),
   ("list", "AXList"), ("menu", "AXMenu"), ("menubar", "AXMenuBar"),
   ("menubaritem", "AXMenuBarItem"), ("menuitem", "AXMenuItem"), ("outline", "AXOutline"),
   ("popupbutton", "AXPopUpButton"), ("progressindicator", "AXProgressIndicator"),
   ("radiobutton", "AXRadioButton"), ("radiogroup", "AXRadioGroup"),
   ("relevanceindicator", "AXRelevanceIndicator"), ("row", "AXRow"), ("ruler", "AXRuler"),
   ("rulermarker", "AXRulerMarker"), ("scrollarea", "AXScrollArea"), ("scrollbar", "AXScrollBar"),
   ("sheet", "AXSheet"), ("slider", "AXSlider"), ("splitgroup", "AXSplitGroup"),
   ("splitter", "AXSplitter"), ("statictext", "AXStaticText"), ("systemwide", "AXSystemWide"),
   ("tabgroup", "AXTabGroup"), ("table", "AXTable"), ("text", "AXStaticText"),
   ("textarea", "AXTextArea"), ("textfield", "AXTextField"), ("toolbar", "AXToolbar"),
   ("unknown", "AXUnknown"), ("valueindicator", "AXValueIndicator"), ("window", "AXWindow")]

/-- The tag of a name in any case, or the name itself if it is no alias. -/
def resolveRole (name : String) : String :=
  (roleAliases.lookup (lower name)).getD name

end UiTree.Selector
