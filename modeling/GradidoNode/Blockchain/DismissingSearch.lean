import GradidoNode.Blockchain.FindAllPages
import GradidoNode.Blockchain.GetTransactionForId
import Mathlib.Data.List.Nodup

/-!
# Paged searches that dismiss what they find

A search whose filter function dismisses every transaction never fills its page: it comes to all
blocks, with the whole page in each of them.
-/

namespace GradidoNode

open Library Cache

namespace Blockchain.FileBased

variable {Entry State : Type} {environment : SearchEnvironment} {filter : Filter}
  {transactionOf : UInt64 → Entry} {step : Entry → Throwing State Unit}

end Blockchain.FileBased

end GradidoNode
