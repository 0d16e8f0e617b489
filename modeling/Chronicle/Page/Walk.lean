-- SUMMARY: Walks: page after page in one direction, for as long as there is another.
import Chronicle.Page.Basic

namespace Chronicle.Page

variable {T : Type}

/-- The pages from a request on, each asked for with the cursor of the one before it. The walk ends
with a page that has none beyond it, with a fault, or after `bound` pages. The source may change
from one page to the next. -/
def walk {m : Type → Type} [Monad m] (page : Query → ExceptT Fault m (Page T)) :
    (bound : Nat) → Query → m (List (Except Fault (Page T)))
  | 0, _ => return []
  | bound + 1, q => do
    match ← (page q).run with
    | .error f => return [.error f]
    | .ok p =>
      if p.info.hasNext then
        let rest ← walk page bound (q.next p.info)
        return .ok p :: rest
      else return [.ok p]

end Chronicle.Page
