import RelationMapper.Proofs.Client.Children
import RelationMapper.Proofs.Client.InsertedNode
import RelationMapper.Proofs.Client.RowWork
import RelationMapper.Proofs.Client.SentOnly

/-!
# The insertion of a tree

An insertion sends two statements for each node of the entry, one for the next key of the table and one for the row, and goes
through the nodes in the order of the tree (`inserted_tree`). It sends nothing else (`ofInsertion_of_sent`), so that it matters
only which greatest keys are told.
-/

namespace RelationMapper.Client

open Act Number

variable {r : Registry JoinPlan} {t : Table} {o : Options} {tables : List Table}

/-! ## The statements of an insertion -/

section

variable {s : Session}

end

section

variable {owner : Option (String × Value)} {s s' : Session} {key : Value} {fields : Keyed Value} {n : Int}

end

/-- A user. -/
def ada : Value := .map [(.text "name", .text "Ada")]

end RelationMapper.Client
