import SelectorCatalog.Entry

/-!
# Listening to an entry

A listener is a position in what an entry has told. The last sixteen events are kept; a listener
that is further behind skips what is no longer kept.
-/

namespace SelectorCatalog.Entry

/-- The number of events kept for slow listeners. -/
def capacity : Nat := 16

/-- The position of the oldest event that a listener at `seen` can still receive. -/
def oldest (e : Entry) (seen : Nat) : Nat :=
  max seen (e.sent.length - capacity)

/-- The next event for a listener at `seen`, and its position after it. -/
def receive? (e : Entry) (seen : Nat) : Option (EntryEvent × Nat) :=
  (e.sent[e.oldest seen]?).map fun event => (event, e.oldest seen + 1)

/-- All that a listener at `seen` can still receive. -/
def unheard (e : Entry) (seen : Nat) : List EntryEvent :=
  e.sent.drop (e.oldest seen)

/-- What is received next is the first of all that can still be received. -/
theorem receive?_eq_head?_unheard (e : Entry) (seen : Nat) :
    e.receive? seen = (e.unheard seen).head?.map fun event => (event, e.oldest seen + 1) := by
  simp [receive?, unheard]

end SelectorCatalog.Entry
