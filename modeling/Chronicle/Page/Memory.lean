-- SUMMARY: Scans of rows held in memory.
import Chronicle.Page.Basic

namespace Chronicle.OrderedMap

variable {K V : Type} [Ord K]

/-- The first rows beyond a key that pass the filter. The limit counts those rows only. -/
def scan (m : OrderedMap K V) (filter : V → Bool) (s : Scan K) : List (K × V) :=
  ((m.beyond s.startAfter s.direction).filter fun e => filter e.2).take s.limit

/-- A scan as a source of pages. -/
def source (m : OrderedMap K V) (filter : V → Bool) (s : Scan K) :
    ExceptT Fault Id (List (K × V)) :=
  pure (m.scan filter s)

end Chronicle.OrderedMap
