import SelectorCatalog.Entry
import SelectorCatalog.Html.Document
import SelectorCatalog.Notice

/-!
# Fetching

A fetch asks for the size and age of a file, then for its text, then for the rules of the text or of
each style element in it, and last for an index of all these. It ends early when the file is too
large or cannot be read, or when the parser refuses a stylesheet; a refused style element is only
left out.
-/

namespace SelectorCatalog

/-- The number of an entry. -/
abbrev EntryId := Nat

/-- A text to be parsed, and the rules found in it once the parser has answered. -/
structure Block where
  text : String
  outcome : Option (Except Error (List Rule)) := none

/-- How far a fetch is: what it waits for, with what it knows already. -/
inductive Fetch.Stage where
  | stat
  | read (stat : FileStat)
  | parse (stat : FileStat) (dependencies : List Path) (blocks : List Block)
  | build (stat : FileStat) (dependencies : List Path) (sources : List (String × List Rule))

/-- A fetch that is under way. -/
structure Fetch where
  entry : EntryId
  generation : Nat
  started : Time
  stage : Fetch.Stage

/-- What an answer leads to: a later stage, or the end of the fetch. -/
inductive Fetch.Progress where
  | waiting (stage : Fetch.Stage)
  | finished (result : Except Error Unit)

namespace Fetch

/-- Starts a fetch of a live entry. -/
def start (id : EntryId) (e : Entry) (now : Time) : Except Error (Entry × Fetch) :=
  if e.isDisposed then .error .disposed
  else
    let e := e.beginFetch
    .ok (e, ⟨id, e.fetches, now, .stat⟩)

/-- The index of parsed texts, each with its own text as the source of spellings. -/
def indexOf (sources : List (String × List Rule)) : SelectorIndex :=
  sources.foldl (fun index (text, rules) => index.addRules rules text) .empty

/-- A fetch finds a live index. -/
@[simp] theorem isDisposed_indexOf (sources : List (String × List Rule)) :
    (indexOf sources).isDisposed = false := by
  suffices h : ∀ index : SelectorIndex, index.isDisposed = false →
      (sources.foldl (fun index (text, rules) => index.addRules rules text) index).isDisposed =
        false from
    h .empty rfl
  induction sources with
  | nil => intro index h; exact h
  | cons source rest ih =>
      intro index h
      refine ih _ ?_
      cases index with
      | live names => rfl
      | disposed => exact h

/-- The texts that the parser took, with their rules. -/
def accepted (blocks : List Block) : List (String × List Rule) :=
  blocks.filterMap fun block =>
    match block.outcome with
    | some (.ok rules) => some (block.text, rules)
    | _ => none

/-- The stage after a text was read: a stylesheet is one block, a document has one for each style
element. -/
def stageAfterText (e : Entry) (root : Option Path) (stat : FileStat) (text : String) : Stage :=
  match e.kind with
  -- the only block of a stylesheet is its text
  | .css => .parse stat [] [⟨text, none⟩]
  | .html =>
    let dependencies := Html.Document.dependencies text e.path root
    match Html.Document.styles text with
    -- without a style element there is nothing to parse, and the index is built at once
    | [] => .build stat dependencies []
    | styles => .parse stat dependencies (styles.map fun s => ⟨s, none⟩)

/-- The stage after the parser has answered for one block. -/
def stageAfterBlock (stat : FileStat) (dependencies : List Path) (blocks : List Block) : Stage :=
  -- blocks are answered for in any order; the index takes them in theirs
  if blocks.all (·.outcome.isSome) then .build stat dependencies (accepted blocks)
  else .parse stat dependencies blocks

/-- What an answer of the parser reports: the refusal of a style element. -/
def refusal (e : Entry) : Except Error (List Rule) → List Notice
  | .error error => [.blockRefused e.path error]
  | .ok _ => []

/-- Whether an answer of the parser ends the fetch: a stylesheet that is refused does. -/
def fatal? (e : Entry) : Except Error (List Rule) → Option Error
  | .error error => if e.kind == .css then some error else none
  | .ok _ => none

/-- Takes the parser's answer for one block in. -/
def afterParse (e : Entry) (stat : FileStat) (dependencies : List Path) (blocks : List Block)
    (i : Nat) (result : Except Error (List Rule)) : List Notice × Progress :=
  match fatal? e result with
  | some error => ([], .finished (.error error))
  | none =>
    (refusal e result,
      .waiting (stageAfterBlock stat dependencies
        (blocks.modify i fun block => { block with outcome := some result })))

/-- Goes on with an answer; `limit` is the size of the largest file allowed, and `root` the root of
the project. An answer to another request changes nothing. -/
def resume (f : Fetch) (e : Entry) (limit : Nat) (root : Option Path) (answer : Answer) :
    Entry × List Notice × Progress :=
  match f.stage, answer with
  | .stat, .stat (.error error) => (e, [], .finished (.error error))
  | .stat, .stat (.ok stat) =>
    -- the size of the text itself is not looked at again
    if limit < stat.size then (e, [], .finished (.error (.tooLarge e.path stat.size limit)))
    else (e, [], .waiting (.read stat))
  | .read _, .text (.error error) => (e, [], .finished (.error error))
  | .read stat, .text (.ok text) => (e, [], .waiting (stageAfterText e root stat text))
  | .parse stat dependencies blocks, .parsed i result =>
    let (notices, progress) := afterParse e stat dependencies blocks i result
    (e, notices, progress)
  | .build stat dependencies sources, .built =>
    -- the entry may have been disposed of meanwhile, or hold what a later fetch found
    match e.install f.generation ⟨indexOf sources, dependencies, stat.modified, f.started⟩ with
    | .ok e => (e, [], .finished (.ok ()))
    | .error error => (e, [], .finished (.error error))
  | stage, _ => (e, [], .waiting stage)

/-- The number of the first block that the parser has not answered for, and its text. -/
def nextBlock? (blocks : List Block) : Option (Nat × String) :=
  (blocks.findIdx? (·.outcome.isNone)).bind fun i => (blocks[i]?).map fun block => (i, block.text)

/-- What a fetch of a file waits for. -/
def request? (f : Fetch) (path : Path) : Option Request :=
  match f.stage with
  | .stat => some (.stat path)
  | .read _ => some (.read path)
  | .parse _ _ blocks => (nextBlock? blocks).map fun (i, text) => .parse i text
  | .build .. => some .build

/-- Whether a fetch waits for an answer of that form. The parser may answer for the blocks in any
order, once for each. -/
def expects (f : Fetch) (answer : Answer) : Bool :=
  match f.stage, answer with
  | .stat, .stat _ | .read _, .text _ | .build .., .built => true
  | .parse _ _ blocks, .parsed i _ => (blocks[i]?).any (·.outcome.isNone)
  | _, _ => false

end Fetch

end SelectorCatalog
