import UiTree.Failure
import UiTree.Selector.Search

/-!
# Outages — attributes that cannot be read

A provider may fail to answer for single attributes of single elements.  Whoever reads several
attributes in a row ends at the first one that is out.
-/

namespace UiTree

open UiTree.Selector (Reading)

structure Outage where
  reading : Reading
  raised : Raised
  deriving Repr

namespace Outage

/-- What a reading raises; of several outages the last one counts. -/
def at? (outages : List Outage) (r : Reading) : Option Raised :=
  (outages.reverse.find? (·.reading == r)).map (·.raised)

/-- What a row of readings raises. -/
def first? (outages : List Outage) (readings : List Reading) : Option Raised :=
  readings.findSome? (at? outages)

theorem first?_nil (readings : List Reading) : first? [] readings = none := by
  simp [first?, at?]

end Outage

namespace Element

/-- What a line about an element is made of. -/
def describeReads : List Attribute := [.role, .title, .identifier, .value]

/-- What the text of an element is chosen from. -/
def textReads : List Attribute := [.title, .label, .value]

/-- The readings of a whole tree as text, in order. -/
def renderReadings (e : Element) : List Reading :=
  (e.root :: e.root.descendants).flatMap fun n =>
    (describeReads ++ [Attribute.children]).map (n.path, ·)

end Element

end UiTree
