-- SUMMARY: Pages: the rows beyond a cursor, with the cursors from which to go on.
import Chronicle.Cursor
import Chronicle.Page.Query
import Chronicle.Store.OrderedMap

/-!
# Pages

A source is scanned once, from strictly beyond the cursor and away from it, for one row more than
the page may hold. That row only tells whether there are more and is never shown. A page after a
cursor is scanned in the order in which rows are shown, a page before one against it, and then
turned around, so that rows are always shown in the same order.
-/

namespace Chronicle

/-- A bounded read of an ordered source. -/
structure Scan (K : Type) where
  /-- The key beyond which to read, or none for the edge of the order. -/
  startAfter : Option K
  direction : Direction
  limit : Nat
  deriving DecidableEq

/-- What pages of one kind have in common. -/
structure Page.Options (F K : Type) where
  filter : F
  /-- Rows are shown from the greatest key down. -/
  descending : Bool
  codec : CursorCodec K

/-- Where a page begins and ends, and whether there is more beyond it. -/
structure Page.Info where
  firstCursor : String := ""
  lastCursor : String := ""
  hasNext : Bool := false
  deriving DecidableEq

/-- A page of items. -/
structure Page (T : Type) where
  items : List T
  info : Page.Info

namespace Page

variable {F K V T : Type}

/-- The order in which rows are shown. -/
def Options.order (o : Options F K) : Direction :=
  if o.descending then .descending else .ascending

/-- The order in which a page at an anchor is scanned. -/
def Options.scanOrder (o : Options F K) : Anchor → Direction
  | .after _ => o.order
  | .before _ => o.order.reverse

def Anchor.cursor : Anchor → String
  | .before cursor => cursor
  | .after cursor => cursor

/-- The key of a cursor; the empty cursor has none. -/
def startKey (codec : CursorCodec K) (cursor : String) : Except Fault (Option K) :=
  if cursor = "" then .ok none else (codec.parse cursor).map some

/-- The scan that a request asks for, with the size of the page. -/
def plan (q : Query) (o : Options F K) : Except Fault (Scan K × Nat) :=
  match q.validate with
  | .error f => .error f
  | .ok (anchor, limit) =>
    match startKey o.codec anchor.cursor with
    | .error f => .error f
    | .ok start => .ok (⟨start, o.scanOrder anchor, limit + 1⟩, limit)

/-- The rows of a page in the order in which they are shown: those scanned, without the one beyond
the limit. -/
def shown (o : Options F K) (scanned : Direction) (limit : Nat) (rows : List (K × V)) :
    List (K × V) :=
  if scanned = o.order then rows.take limit else (rows.take limit).reverse

/-- The cursors of the first and the last row shown. -/
def infoOf (codec : CursorCodec K) (hasNext : Bool) (rows : List (K × V)) : Info :=
  match rows.head?, rows.getLast? with
  | some first, some last => ⟨codec.toCursor first.1, codec.toCursor last.1, hasNext⟩
  | _, _ => {}

/-- The page that a request asks for. Rows become items in the order in which they are shown, and
the first that fails to fails the page. Source and items may have effects of their own. -/
def find {m : Type → Type} [Monad m] (q : Query)
    (scan : F → Scan K → ExceptT Fault m (List (K × V))) (o : Options F K)
    (make : V → ExceptT Fault m T) : ExceptT Fault m (Page T) :=
  match plan q o with
  | .error f => throw f
  | .ok (s, limit) => do
    let rows ← scan o.filter s
    let page := shown o s.direction limit rows
    let items ← page.mapM fun row => make row.2
    return ⟨items, infoOf o.codec (limit < rows.length) page⟩

/-- The request for the page that comes after one in the same direction. -/
def Query.next (q : Query) (info : Info) : Query :=
  if q.after.isSome then { q with after := some info.lastCursor }
  else { q with before := some info.firstCursor }

end Page

end Chronicle
