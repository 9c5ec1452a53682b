import WireSketch.Proofs.Value.Operate
import WireSketch.Diagram.Label

/-! Attributes and content of nodes, as they are made from values. -/
namespace WireSketch
open Contract StoreM

theorem civil_coordinate (v : Value) : Civil (coordinate v) := by
  unfold coordinate
  split
  · exact Value.civil_intText _
  · exact civil_ok _
  · exact civil_ok _
  · exact (civil_error _).mpr rfl

variable {C : Contract Fault Store}

theorem keeps_nestedParts? (v : Value) : C.Keeps (nestedParts? v) := by
  unfold nestedParts?
  split
  · exact keeps_pure _
  · exact (keeps_getList _).bind fun _ => keeps_pure _
  · exact keeps_pure _

namespace Node

variable [C.Reading]

theorem keeps_contentItem (v : Value) : C.Keeps (contentItem v) := by
  unfold contentItem
  split
  · exact keeps_pure _
  · exact (Value.keeps_plain v).bind fun _ => keeps_pure _

theorem keeps_contentItems (xs : List Value) : C.Keeps (contentItems xs) := keeps_mapM keeps_contentItem xs

end Node

theorem keeps_container [C.Reading] (tag : String) (content : List Value)
    (keywords : List (String × Value)) : C.Keeps (container tag content keywords) :=
  (Node.keeps_contentItems content).bind fun _ => keeps_pure _

theorem keeps_mappingEntries [C.Reading] (v : Value) : C.Keeps (mappingEntries v) := by
  unfold mappingEntries
  split
  · exact (keeps_getDict _).bind fun _ => keeps_pure _
  · exact keeps_throw rfl

variable [C.Evaluating]

theorem keeps_entriesOf (v : Value) : C.Keeps (entriesOf v) := by
  unfold entriesOf
  split
  · exact (keeps_getDict _).bind fun _ => keeps_pure _
  · exact (Value.keeps_addEntries _ v).bind fun _ => keeps_pure _

theorem Style.keeps_attrs (s : Style) : C.Keeps s.attrs := by
  cases s with
  | own a _ => exact keeps_pure a
  | shared r => exact keeps_entriesOf (.dict r)

theorem keeps_pointText (v : Value) : C.Keeps (pointText v) := by
  have unpacked : C.Keeps (unpackPoint v) := by
    refine (Value.keeps_assignedItems v rfl).bind fun parts => ?_
    split
    · exact keeps_pure _
    · exact yields_ite (keeps_throw_bind rfl) (keeps_throw rfl)
  exact unpacked.bind fun _ => (keeps_ofExcept (civil_coordinate _)).bind fun _ =>
    (keeps_ofExcept (civil_coordinate _)).bind fun _ => keeps_pure _

theorem keeps_polygon (points : List Value) (keywords : List (String × Value)) :
    C.Keeps (polygon points keywords) := (keeps_mapM keeps_pointText points).bind fun _ => keeps_pure _

end WireSketch
