import SelectorCatalog.Catalog

/-!
# Searching

A document is searched together with the stylesheets that it links; a document that links none, or
that is not registered, is searched with every stylesheet. Entries that are disposed of are left
out.
-/

namespace SelectorCatalog.Catalog

/-- The first of each group of paths that name the same place. -/
def distinct (paths : List Path) : List Path :=
  paths.foldl (fun kept path => if kept.any path.same then kept else kept ++ [path]) []

/-- The links of a registered document. -/
def linksOf (c : Catalog) (document : Path) : List Path :=
  (((c.entryOf? .html document).bind fun id => c.entries[id]?).map (·.dependencies)).getD []

/-- The entries of the stylesheets that are searched for a document. -/
def stylesheetsFor (c : Catalog) (document : Path) : List EntryId :=
  match c.linksOf document with
  -- without links the document says nothing about what it uses
  | [] => c.stylesheets
  | links => (distinct links).filterMap (c.entryOf? .css)

/-- The entries searched for a document, its own first. -/
def targets (c : Catalog) (document : Path) : List Entry :=
  -- the slot of a disposed entry stays registered until its listener hears of it
  (((c.entryOf? .html document).toList ++ c.stylesheetsFor document).filterMap fun id =>
    c.entries[id]?).filter
    fun e => !e.isDisposed

/-- The classes found for an element. -/
structure ClassCandidates where
  /-- Classes that were declared for the element's tag. -/
  specific : List String
  /-- Classes that any element can have. -/
  general : List String
deriving DecidableEq, Repr

/-- Whether nothing was found. -/
def ClassCandidates.isEmpty (found : ClassCandidates) : Bool :=
  found.specific.isEmpty && found.general.isEmpty

/-- The classes for an element of a document that match a query and are not to be ignored. -/
def searchClass (c : Catalog) (document : Path) (query : String) (tag : Option String)
    (ignore : List String) :
    ClassCandidates where
  specific :=
    match tag.filter (!·.isEmpty) with
    | some tag => (c.targets document).flatMap fun e => e.index.searchClass query tag ignore
    | none => []
  general := (c.targets document).flatMap fun e => e.index.searchClass query anyTag ignore

/-- The ids for an element of a document that match a query. -/
def searchId (c : Catalog) (document : Path) (query : String) : List String :=
  (c.targets document).flatMap fun e => e.index.searchId query

end SelectorCatalog.Catalog
